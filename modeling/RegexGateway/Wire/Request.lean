import RegexGateway.Pattern.Record
import RegexGateway.Table.Config

namespace RegexGateway

structure TestPayload where
  regex : List Char
  modifiers : List Char
  delimiters : DelimiterPair
  deriving DecidableEq, Repr

structure MatchPayload where
  settings : MatchSettings
  samples : List (List Char)
  patterns : List PatternRecord
  deriving DecidableEq, Repr

structure ReplacePayload where
  samples : List (List Char)
  patterns : List PatternRecord
  deriving DecidableEq, Repr

inductive RemoteRequest where
  | test (payload : TestPayload)
  | findMatches (payload : MatchPayload)
  | replace (payload : ReplacePayload)
  deriving DecidableEq, Repr

inductive Action where
  | test
  | findMatches
  | replace
  deriving DecidableEq, Repr

namespace Action

def name : Action → String
  | test => "test"
  | findMatches => "match"
  | replace => "replace"

def all : List Action := [test, findMatches, replace]

end Action

def RemoteRequest.action : RemoteRequest → Action
  | test _ => .test
  | findMatches _ => .findMatches
  | replace _ => .replace

open Json

def TestPayload.codec : Codec TestPayload :=
  (Shape.codec (.cons (.required "regex" .text)
    (.cons (.required "modifiers" .text)
    (.cons (.required "delimiters" DelimiterPair.codec) .nil))) "TestPayload").along
    (fun p => (p.regex, p.modifiers, p.delimiters, ()))
    (fun (regex, modifiers, delimiters, _) => ⟨regex, modifiers, delimiters⟩)

def MatchPayload.codec : Codec MatchPayload :=
  (Shape.codec (.cons (.required "config" MatchSettings.codec)
    (.cons (.required "input" (.list .text))
    (.cons (.required "regexes" (.list PatternRecord.codec)) .nil))) "MatchPayload").along
    (fun p => (p.settings, p.samples, p.patterns, ()))
    (fun (settings, samples, patterns, _) => ⟨settings, samples, patterns⟩)

def ReplacePayload.codec : Codec ReplacePayload :=
  (Shape.codec (.cons (.required "input" (.list .text))
    (.cons (.required "regexes" (.list PatternRecord.codec)) .nil)) "ReplacePayload").along
    (fun p => (p.samples, p.patterns, ())) (fun (samples, patterns, _) => ⟨samples, patterns⟩)

namespace RemoteRequest

def actionField : String := "action"

def payloadField : String := "payload"

def expectation : String := "adjacently tagged enum RemoteRequest"

def encodePayload : RemoteRequest → Json
  | test p => TestPayload.codec.encode p
  | findMatches p => MatchPayload.codec.encode p
  | replace p => ReplacePayload.codec.encode p

def encode (r : RemoteRequest) : Json :=
  .obj [(actionField, .str r.action.name), (payloadField, r.encodePayload)]

def decodePayload (source : Source) (n : Node) : Action → Decoded RemoteRequest
  | .test => (TestPayload.codec.decode source n).map test
  | .findMatches => (MatchPayload.codec.decode source n).map findMatches
  | .replace => (ReplacePayload.codec.decode source n).map replace

def decodeAction : Node → Decoded Action := (Codec.named Action.all Action.name).decode .direct

/-- Passes over the fields that are neither action nor payload, up to one that is. -/
def seekField : Fields → Decoded (Option (String × Node × Fields))
  | .close => .ok none
  | .fault f => .error (.syntaxError f.reading)
  | .field key value rest => do
    let key ← ofText key
    if key = actionField ∨ key = payloadField then return some (key, value, rest)
    ofText value.skip
    seekField rest

def finish (request : RemoteRequest) (fields : Fields) : Decoded RemoteRequest := do
  match ← seekField fields with
  | none => return request
  | some (key, _, _) => throw (.duplicateField key)

/-- Reads a request from an object. A payload that stands before its action is read without its type
first. -/
def decodeFields (fields : Fields) : Decoded RemoteRequest := do
  match ← seekField fields with
  | none => throw (.missingField actionField)
  | some (key, value, rest) =>
    if key = actionField then
      let action ← decodeAction value
      match ← seekField rest with
      | none => throw (.missingField payloadField)
      | some (key, value, rest) =>
        if key = actionField then throw (.duplicateField actionField)
        finish (← decodePayload .direct value action) rest
    else
      let payload ← ofText value.toJson
      match ← seekField rest with
      | none => throw (.missingField actionField)
      | some (key, value, rest) =>
        if key = payloadField then throw (.duplicateField payloadField)
        let action ← decodeAction value
        finish (← decodePayload .buffered payload.node action) rest

def decodeItems : Items → Decoded RemoteRequest
  | .fault f => .error (.syntaxError f.reading)
  | .close => .error (.wrongLength 0 expectation)
  | .item tag rest => do
    let action ← decodeAction tag
    match rest with
    | .fault f => throw (.syntaxError f.reading)
    | .close => throw (.wrongLength 1 expectation)
    | .item value rest =>
      let request ← decodePayload .direct value action
      match rest with
      | .close => return request
      | .fault f => throw (.syntaxError f.closing)
      | .item .. => throw (.syntaxError .trailingCharacters)

def codec : Codec RemoteRequest where
  encode := encode
  decode _ n := match n with
    | .object deep fields =>
      if deep then .error (.syntaxError .recursionLimit) else decodeFields fields
    | .list deep items =>
      if deep then .error (.syntaxError .recursionLimit) else decodeItems items
    | n => n.refuse expectation

end RemoteRequest

end RegexGateway
