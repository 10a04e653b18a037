import RegexGateway.Dialect.Basic
import RegexGateway.Regex.Meaning
import RegexGateway.Regex.Parser
import RegexGateway.Regex.Report
import RegexGateway.Regex.Search

namespace RegexGateway

namespace Regex

inductive CompileError where
  | refused (error : LocatedError)
  | tooLarge
  deriving DecidableEq, Repr

def compile (pattern : List Char) (ignoreSpace : Bool) (modes : Modes) :
    Except CompileError Program := do
  let ast ← (Ast.parse pattern ignoreSpace).mapError .refused
  let expr ← (Expr.ofAst modes ast).mapError .refused
  (Program.ofExpr? expr).elim (.error .tooLarge) .ok

def CompileError.diagnostic (pattern : List Char) : CompileError → Diagnostic
  | .refused e =>
    ((Diagnostic.new (e.report pattern)).atByte pattern
      (Text.byteOffset pattern e.span.start)).withMessage e.error.message
  | .tooLarge =>
    (Diagnostic.new ("Compiled regex exceeds size limit of " ++ toString sizeLimit ++
      " bytes.")).withMessage
      ("compiled pattern exceeds the size limit of " ++ toString sizeLimit ++ " bytes")

namespace Program

def matcher (p : Program) : Matcher where
  groupNames := p.groupNames
  find text start :=
    .ok ((p.search? text.toArray (Text.charIndex text start)).map
      (Match.map (Text.byteOffset text)))

end Program

end Regex

/-- The standard dialect. The dollar sign matches at the end of the text alone, with or without
`dollarEndOnly`. -/
def Dialect.standard : Dialect where
  kind := .standard
  compile pattern flags :=
    if flags.dupNames then
      .error (.unsupported 'J' "duplicate group names" "the regex crate")
    else
      let modes : Regex.Modes :=
        ⟨flags.caseInsensitive, flags.multiLine, flags.dotAll, flags.swapGreed, true, false⟩
      match Regex.compile pattern flags.extended modes with
      | .ok program => .ok program.matcher
      | .error e => .error (e.diagnostic pattern)

end RegexGateway
