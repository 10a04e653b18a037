import RegexGateway.Main
import RegexGateway.Proofs.Batch.Global
import RegexGateway.Proofs.CommandLine.Serve
import RegexGateway.Proofs.Dialect.Parts
import RegexGateway.Proofs.Engine.Lengths
import RegexGateway.Proofs.Engine.Pending
import RegexGateway.Proofs.Engine.Verdict
import RegexGateway.Proofs.Envelope.Response
import RegexGateway.Proofs.Pattern.Anchored
import RegexGateway.Proofs.Pattern.Cursor
import RegexGateway.Proofs.Pattern.Numbered
import RegexGateway.Proofs.Pattern.Refused
import RegexGateway.Proofs.Table.Delimiters
import RegexGateway.Proofs.Table.Modifiers
import RegexGateway.Proofs.Wire.RoundTrip
import RegexGateway.Proofs.Wire.Settings
