import RegexGateway.Pattern.Record
import RegexGateway.Pattern.Template
import RegexGateway.Table.Capabilities

namespace RegexGateway

inductive ScanMode where
  | all
  | first
  deriving DecidableEq, Repr

/-- A pattern that is ready to run. -/
structure CompiledPattern where
  id : Int
  matcher : Matcher
  template : Template
  scanMode : ScanMode
  /-- Whether a match has to start where the search for it starts. -/
  anchored : Bool
  modifiers : List Char
  delimiters : DelimiterPair

/-- What patterns are compiled for: an engine, the defaults in force, and a dialect. -/
structure Runner where
  capabilities : Capabilities
  defaults : Defaults
  dialect : Dialect

def ValidationError.advice : ValidationError → String
  | delimiter _ _ fallback =>
    "the default delimiters " ++ String.ofList [fallback.opening, fallback.closing] ++
      " would be used instead"
  | modifier _ _ _ cleaned => "the valid modifiers are \"" ++ String.ofList cleaned ++ "\""

def ValidationError.toPatternError (e : ValidationError) (id : Int) : PatternError where
  regexId := id
  rawMessage := e.message
  offset := none
  badCharacter := e.invalid.head?
  messages := [e.message, e.advice]

def TemplateError.toPatternError (e : TemplateError) (id : Int) : PatternError :=
  ((Diagnostic.new e.message).withMessage
    "the replacement text is not a valid template").toPatternError id

namespace PatternRecord

def replacementText (r : PatternRecord) : List Char :=
  if r.unescape then Template.unescape r.replacement else r.replacement

end PatternRecord

namespace Capabilities

/-- An engine with a global modifier reports every match only if it is given. -/
def scanMode (caps : Capabilities) (modifiers : List Char) : ScanMode :=
  match caps.globalModifier with
  | some c => if c ∈ modifiers then .all else .first
  | none => .all

end Capabilities

namespace Runner

/-- The delimiters of a record. They are checked only if the engine requires some. -/
def delimiters (r : Runner) (record : PatternRecord) : Except ValidationError DelimiterPair :=
  let pair := record.delimiters.getD r.defaults.delimiters
  if r.capabilities.delimiterRequired then r.capabilities.validateDelimiters pair else .ok pair

/-- Compiles a record: its modifiers are checked first, then its delimiters, its regex and its
replacement. -/
def compile (r : Runner) (record : PatternRecord) : Except PatternError CompiledPattern := do
  let modifiers ← (r.capabilities.validateModifiers record.modifiers).mapError
    (·.toPatternError record.id)
  let delimiters ← (r.delimiters record).mapError (·.toPatternError record.id)
  let flags := FlagSet.ofModifiers modifiers
  let matcher ← (r.dialect.compile record.regex flags).mapError (·.toPatternError record.id)
  let template ← (Template.parse record.replacementText).mapError (·.toPatternError record.id)
  return {
    id := record.id
    matcher
    template
    scanMode := r.capabilities.scanMode modifiers
    anchored := flags.anchored
    modifiers
    delimiters }

end Runner

end RegexGateway
