import RegexGateway.Engine.Operations
import RegexGateway.Envelope.Request

namespace RegexGateway

namespace Envelope

structure Response where
  ok : Bool
  code : Nat
  content : Json
  message : String
  hasTiming : Bool

namespace Response

def serverError : Nat := 500

def failure (code : Nat) (message : String) : Response :=
  ⟨false, code, .arr [.str ""], message, false⟩

def success (mode : Mode) (content : Json) : Response :=
  ⟨true, 0, content.sorted, "", mode ≠ .test⟩

def toJson (r : Response) : Json := .obj [
  ("ok", .bool r.ok), ("code", .int r.code), ("content", r.content),
  ("message", .str r.message), ("hasTiming", .bool r.hasTiming)]

end Response

def RequestedConfig.updates (c : RequestedConfig) : List SettingUpdate :=
  [.wholeLength c.wholeLength, .partLength c.partLength, .sampleLength c.sampleLength] ++
    (c.showBlanks.map .showBlanks).toList ++ (c.truncate.map .truncate).toList

namespace Request

def engine (r : Request) : Except EngineError (Engine Unit) := do
  let engine ← (Engine.ofTable r.capabilities).mapError .config
  return (r.config.elim [] RequestedConfig.updates).foldl Engine.setSetting engine

def answer {σ : Type} (r : Request) (engine : Engine σ) : Reply σ Json :=
  match r.mode with
  | .test => TestOutcome.codec.list.encode <$> engine.testAll r.patterns
  | .findMatches =>
    SampleMatches.codec.list.encode <$> engine.matchSamples r.samples r.patterns (some r.chain)
  | .replace => ReplacedSample.codec.list.encode <$> engine.replace r.samples r.patterns

def run (r : Request) : Except EngineError Json := do
  let engine ← r.engine
  ((r.answer engine).run.run ()).1

end Request

/-- Answers the text of an envelope, unless the run of the engine is lost. -/
def Desk.respond (desk : Desk) (text : List Char) : Except Loss Response :=
  match desk.parse text with
  | .error rejection => .ok (.failure rejection.code rejection.message)
  | .ok request =>
    match request.run with
    | .ok content => .ok (.success request.mode content)
    | .error e =>
      match e.loss? with
      | none => .ok (.failure Response.serverError ("Server error: " ++ e.message))
      | some loss => .error loss

end Envelope

end RegexGateway
