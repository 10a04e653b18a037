import RegexGateway.Envelope.Rejection
import RegexGateway.Pattern.Record
import RegexGateway.Text.Lines

namespace RegexGateway

namespace Envelope

/-- How much an envelope may hold. Lengths are counted in characters. -/
structure Quotas where
  patterns : Nat
  samples : Nat
  sampleLength : Nat
  totalLength : Nat
  deriving DecidableEq, Repr

def Quotas.standard : Quotas := ⟨30, 2048, 4096, 32768⟩

structure RequestedConfig where
  wholeLength : Nat
  partLength : Nat
  sampleLength : Nat
  showBlanks : Option Bool
  truncate : Option Bool
  deriving DecidableEq, Repr

structure Request where
  mode : Mode
  capabilities : Capabilities
  patterns : List PatternRecord
  samples : List (List Char)
  chain : Bool
  config : Option RequestedConfig
  deriving DecidableEq, Repr

/-- What envelopes are checked against. -/
structure Desk where
  registry : Registry
  defaultEngine : String
  quotas : Quotas
  deriving DecidableEq, Repr

abbrev Checked := Except Rejection

abbrev Fields := List (String × Json)

def demand (data : Fields) (field : Field) : Checked Json :=
  (Json.field? field.name data).elim (.error (.missing field)) .ok

def parseMode (data : Fields) : Checked Mode := do
  match ← demand data .mode with
  | .str name => (Mode.ofName? name).elim (.error (.unknownMode name)) .ok
  | other => .error (.wrongKind .mode other)

def Desk.engine (desk : Desk) (data : Fields) : Checked Capabilities := do
  let id ← match Json.field? Field.engine.name data with
    | none | some .null => pure desk.defaultEngine
    | some (.str id) => pure id
    | some other => throw (.wrongKind .engine other)
  (desk.registry.require id).mapError .noEngine

/-- The fields that a pattern has to have, in the order in which they are missed. -/
def requiredFields : Mode → List String
  | .test => ["id", "pattern", "modifiers", "delimiters"]
  | .findMatches | .replace =>
    ["id", "pattern", "modifiers", "delimiters", "replace", "transformWhiteSpace"]

def stringField (fields : Fields) (name : String) : Except PatternProblem (List Char) :=
  match Json.field? name fields with
  | some (.str s) => .ok s.toList
  | _ => .error (.notString name)

def booleanField (fields : Fields) (name : String) : Except PatternProblem Bool :=
  match Json.field? name fields with
  | some (.bool b) => .ok b
  | _ => .error (.notBoolean name)

def idField (fields : Fields) : Except PatternProblem Int :=
  match Json.field? "id" fields with
  | some (.int n) => if -0x8000000000000000 ≤ n ∧ n < 0x8000000000000000 then .ok n else .error .badId
  | _ => .error .badId

/-- Delimiters as one or two characters, or as an object. An empty text leaves the choice to the
engine. -/
def delimitersField (fields : Fields) : Except PatternProblem (Option DelimiterPair) :=
  match Json.field? "delimiters" fields with
  | none | some .null => .ok none
  | some (.str s) =>
    if s.isEmpty then .ok none
    else (DelimiterPair.ofText? s.toList).elim (.error .delimiterCount) fun pair => .ok (some pair)
  | some (.obj inner) =>
    (DelimiterPair.codec.ofJson (.obj inner)).mapError .delimiterObject |>.map some
  | some other => .error (.delimiterKind other)

def patternOf (mode : Mode) (fields : Fields) : Except PatternProblem PatternRecord := do
  let id ← idField fields
  let regex ← stringField fields "pattern"
  let modifiers ← stringField fields "modifiers"
  let delimiters ← delimitersField fields
  if mode = .test then return ⟨id, regex, modifiers, delimiters, [], false⟩
  let replacement ← stringField fields "replace"
  let unescape ← booleanField fields "transformWhiteSpace"
  return ⟨id, regex, modifiers, delimiters, replacement, unescape⟩

def parsePattern (mode : Mode) : Json → Checked PatternRecord
  | .obj fields => do
    match (requiredFields mode).zipIdx.find? fun f => (Json.field? f.1 fields).isNone with
    | some (name, index) => throw (.missingPatternField index name)
    | none => (patternOf mode fields).mapError .badPattern
  | other => .error (.badPattern (.notObject other))

def Desk.patterns (desk : Desk) (mode : Mode) (data : Fields) : Checked (List PatternRecord) := do
  match ← demand data .patterns with
  | .arr items =>
    if items.isEmpty then throw .noPatterns
    if desk.quotas.patterns < items.length then
      throw (.tooManyPatterns desk.quotas.patterns items.length)
    items.mapM (parsePattern mode)
  | other => throw (.wrongKind .patterns other)

/-- Takes samples, of which `index` were there before with `total` characters. -/
def takeSamples (quotas : Quotas) : Nat → Nat → List Json → Checked (List (List Char))
  | _, _, [] => .ok []
  | index, total, .str s :: rest => do
    let sample := s.toList
    let total := total + sample.length
    if quotas.sampleLength < sample.length then
      throw (.longSample index quotas.sampleLength sample.length)
    if quotas.totalLength < total then throw (.longSamples quotas.totalLength total)
    return sample :: (← takeSamples quotas (index + 1) total rest)
  | index, _, other :: _ => .error (.sampleKind index other)

def Desk.samples (desk : Desk) (data : Fields) : Checked (List (List Char)) := do
  match ← demand data .samples with
  | .arr items =>
    if items.isEmpty then throw .noSamples
    if desk.quotas.samples < items.length then
      throw (.tooManySamples desk.quotas.samples items.length)
    takeSamples desk.quotas 0 0 items
  | other => throw (.wrongKind .samples other)

def parseChain (data : Fields) : Checked Bool := do
  match ← demand data .chain with
  | .bool b => return b
  | other => throw (.wrongKind .chain other)

def parseLength (settings : Fields) (limits : MatchLimits) (setting : LengthSetting) :
    Checked Nat :=
  let limit := setting.limit limits
  match Json.field? setting.name settings with
  | none => .error (.missingLength setting)
  | some (.int n) =>
    if n < 0 then .error (.lengthKind setting limit (.int n))
    else if LengthSetting.least ≤ n.toNat ∧ n.toNat ≤ limit then .ok n.toNat
    else .error (.lengthRange setting limit n.toNat)
  | some other => .error (.lengthKind setting limit other)

/-- A flag that is passed over unless it is true or false. -/
def flag? (settings : Fields) (name : String) : Option Bool :=
  match Json.field? name settings with
  | some (.bool b) => some b
  | _ => none

def parseConfig (data : Fields) (limits : MatchLimits) : Checked RequestedConfig := do
  match ← demand data .settings with
  | .obj settings =>
    return {
      wholeLength := ← parseLength settings limits .whole
      partLength := ← parseLength settings limits .part
      sampleLength := ← parseLength settings limits .sample
      showBlanks := flag? settings "showWhiteSpaceChars"
      truncate := flag? settings "truncateLongStr" }
  | other => throw (.wrongKind .settings other)

def parseObject (text : List Char) : Checked Fields := do
  let text := Text.trim text
  if text.isEmpty then throw .emptyText
  let json ← (Json.Document.ofText (String.ofList text)).toJson.mapError .invalidJson
  match json.sorted with
  | .obj fields => return fields
  | other => throw (.notObject other)

def Desk.parse (desk : Desk) (text : List Char) : Checked Request := do
  let data ← parseObject text
  let mode ← parseMode data
  let capabilities ← desk.engine data
  let patterns ← desk.patterns mode data
  if mode = .test then return ⟨mode, capabilities, patterns, [], false, none⟩
  let samples ← desk.samples data
  let chain ← parseChain data
  if mode = .replace then return ⟨mode, capabilities, patterns, samples, chain, none⟩
  let config ← parseConfig data capabilities.config.limits
  return ⟨mode, capabilities, patterns, samples, chain, some config⟩

end Envelope

end RegexGateway
