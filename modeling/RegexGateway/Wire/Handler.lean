import RegexGateway.Batch
import RegexGateway.Dialect.Available
import RegexGateway.Text.Lines
import RegexGateway.Wire.Request

namespace RegexGateway

inductive HandlerError where
  | malformed (error : Json.DecodeError)
  | run (fault : RunFault)

namespace HandlerError

def message : HandlerError → String
  | malformed e => "malformed request: " ++ e.message
  | run f => f.message

def loss? : HandlerError → Option Loss
  | malformed _ => none
  | run f => f.cause.loss?

end HandlerError

/-- What comes of lines that are served: the lines that answer them, and the loss that puts an end
to the serving before its time. -/
structure Served where
  lines : List String
  loss : Option Loss
  deriving DecidableEq, Repr

namespace Served

def nothing : Served := ⟨[], none⟩

/-- What comes of serving on. Nothing does behind a loss. -/
def andThen (first second : Served) : Served :=
  match first.loss with
  | none => ⟨first.lines ++ second.lines, second.loss⟩
  | some _ => first

end Served

/-- Answers the requests to one engine, with a dialect of its own. -/
structure Handler where
  capabilities : Capabilities
  dialect : Dialect

namespace Handler

/-- A handler with the dialect that the table names, or the one nearest to it. -/
def ofTable (caps : Capabilities) : Handler := ⟨caps, caps.dialect.nearest⟩

def runner (h : Handler) : Runner := ⟨h.capabilities, h.capabilities.defaults, h.dialect⟩

/-- Answers a request. The settings that it brings are held to the table's limits. -/
def answer (h : Handler) : RemoteRequest → Except RunFault Json
  | .test p =>
    let record := PatternRecord.toTest 0 p.regex p.modifiers p.delimiters
    .ok (Validity.codec.encode (.ofResult (h.runner.compile record)))
  | .findMatches p => do
    let config := h.capabilities.config.apply p.settings
    return SampleMatches.codec.list.encode
      (← h.runner.matchSamples config p.patterns p.samples)
  | .replace p => do
    return ReplacedSample.codec.list.encode (← h.runner.replace p.patterns p.samples)

def handle (h : Handler) (text : String) : Except HandlerError String := do
  let request ← (RemoteRequest.codec.ofString text).mapError .malformed
  let response ← (h.answer request).mapError .run
  return response.sorted.compact

/-- The line that answers a line. A request without a response yields an object with the reason. -/
def reply (h : Handler) (line : List Char) : Except Loss String :=
  match h.handle (String.ofList line) with
  | .ok response => .ok response
  | .error e =>
    match e.loss? with
    | none => .ok (Json.obj [("error", .str e.message)]).compact
    | some loss => .error loss

/-- Serves a line. One without anything in it is passed over. -/
def serveLine (h : Handler) (line : List Char) : Served :=
  if (Text.trim line).isEmpty then .nothing
  else match h.reply line with
    | .ok reply => ⟨[reply], none⟩
    | .error loss => ⟨[], some loss⟩

def serveLines (h : Handler) : List (List Char) → Served
  | [] => .nothing
  | line :: rest => (h.serveLine line).andThen (h.serveLines rest)

def serve (h : Handler) (text : List Char) : Served := h.serveLines (Text.lines text)

/-- Serves a text that comes in pieces, each as it comes. -/
def servePieces (h : Handler) : List (List Char) → Served
  | [] => .nothing
  | piece :: rest => (h.serve piece).andThen (h.servePieces rest)

end Handler

end RegexGateway
