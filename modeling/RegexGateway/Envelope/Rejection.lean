import RegexGateway.Table.Registry

namespace RegexGateway

def Json.kind : Json → String
  | null => "null"
  | bool _ => "boolean"
  | int _ => "integer"
  | float _ => "float"
  | str _ => "string"
  | arr _ => "array"
  | obj _ => "object"

namespace Envelope

inductive Mode where
  | test
  | findMatches
  | replace
  deriving DecidableEq, Repr

namespace Mode

def name : Mode → String
  | test => "test"
  | findMatches => "match"
  | replace => "replace"

def all : List Mode := [test, findMatches, replace]

def ofName? (name : String) : Option Mode := all.find? fun m => m.name = name

end Mode

inductive Field where
  | mode
  | engine
  | patterns
  | samples
  | chain
  | settings
  deriving DecidableEq, Repr

namespace Field

def name : Field → String
  | mode => "type"
  | engine => "engine"
  | patterns => "regexes"
  | samples => "samplestrings"
  | chain => "chainRegexes"
  | settings => "matchConfig"

def kind : Field → String
  | mode | engine => "string"
  | patterns | samples => "array"
  | chain => "boolean"
  | settings => "object"

/-- The code of a missing field. The next one is that of a field of the wrong kind. -/
def code : Field → Nat
  | mode => 100
  | engine => 102
  | patterns => 110
  | samples => 120
  | chain => 130
  | settings => 140

end Field

inductive LengthSetting where
  | whole
  | part
  | sample
  deriving DecidableEq, Repr

namespace LengthSetting

def name : LengthSetting → String
  | whole => "maxWholeMatchLen"
  | part => "maxSubMatchLen"
  | sample => "maxReturnSampleLen"

/-- The code of a missing length. The next ones are those of a length that is no whole number, and
of one that is too small or too great. -/
def code : LengthSetting → Nat
  | whole => 142
  | part | sample => 145

def limit (limits : MatchLimits) : LengthSetting → Nat
  | whole => limits.wholeLength
  | part => limits.partLength
  | sample => limits.sampleLength

/-- The least length that an envelope may set. -/
def least : Nat := 10

end LengthSetting

inductive PatternProblem where
  | notObject (found : Json)
  | badId
  | notString (field : String)
  | delimiterCount
  | delimiterObject (error : Json.DecodeError)
  | delimiterKind (found : Json)
  | notBoolean (field : String)

def PatternProblem.message : PatternProblem → String
  | notObject found => "expecting object. Found " ++ found.kind
  | badId => "property `id` must be an integer"
  | notString field => "property `" ++ field ++ "` must be a string"
  | delimiterCount => "property `delimiters` must be one or two characters"
  | delimiterObject e => "property `delimiters` is invalid: " ++ e.message
  | delimiterKind found => "property `delimiters` must be a string. Found " ++ found.kind
  | notBoolean field => "property `" ++ field ++ "` must be a boolean"

inductive Rejection where
  | emptyText
  | invalidJson (error : Json.SyntaxError)
  | notObject (found : Json)
  | missing (field : Field)
  | wrongKind (field : Field) (found : Json)
  | unknownMode (name : String)
  | noEngine (error : ConfigError)
  | noPatterns
  | tooManyPatterns (limit count : Nat)
  | missingPatternField (index : Nat) (field : String)
  | badPattern (problem : PatternProblem)
  | noSamples
  | tooManySamples (limit count : Nat)
  | sampleKind (index : Nat) (found : Json)
  | longSample (index limit length : Nat)
  | longSamples (limit total : Nat)
  | missingLength (setting : LengthSetting)
  | lengthKind (setting : LengthSetting) (limit : Nat) (found : Json)
  | lengthRange (setting : LengthSetting) (limit given : Nat)

namespace Rejection

def code : Rejection → Nat
  | emptyText => 201
  | invalidJson _ | notObject _ => 202
  | missing field => field.code
  | wrongKind field _ => field.code + 1
  | unknownMode _ => 102
  | noEngine _ => 103
  | noPatterns => 112
  | tooManyPatterns .. | tooManySamples .. => 113
  | missingPatternField index _ => 200 + index
  | badPattern _ => 210
  | noSamples => 122
  | sampleKind .. => 121
  | longSample .. => 114
  | longSamples .. => 115
  | missingLength setting => setting.code
  | lengthKind setting .. => setting.code + 1
  | lengthRange setting .. => setting.code + 2

def sampleField (index : Nat) : String := "Request data.samplestrings[" ++ toString index ++ "]"

def lengthRule (setting : LengthSetting) (limit : Nat) : String :=
  "Request data.matchConfig." ++ setting.name ++ " must be an integer between " ++
    toString LengthSetting.least ++ " & " ++ toString limit

def excess (field : Field) (things : String) (limit count : Nat) : String :=
  "Request data." ++ field.name ++ " contains too many " ++ things ++ ". We only allow " ++
    toString limit ++ ". Received " ++ toString count

def message : Rejection → String
  | emptyText => "JSON cannot be an empty string"
  | invalidJson e => "Invalid JSON: " ++ e.message
  | notObject found => "Invalid JSON: expecting an object. Found " ++ found.kind
  | missing field => "Request data is missing the " ++ field.name ++ " field"
  | wrongKind field found =>
    "Request data." ++ field.name ++ " is invalid. Expecting " ++ field.kind ++ ". Found " ++
      found.kind ++ "."
  | unknownMode name =>
    "Request data.type is invalid. Expecting one of the following: \"" ++
      "\", \"".intercalate (Mode.all.map Mode.name) ++ "\". Found: \"" ++ name ++ "\""
  | noEngine e => "Request data.engine is invalid: " ++ e.message
  | noPatterns => "Request data.regexes contains no regular expressions"
  | tooManyPatterns limit count => excess .patterns "regular expressions" limit count
  | missingPatternField _ field => "Regex is missing \"" ++ field ++ "\" field"
  | badPattern problem => "Regex data contains errors: \"" ++ problem.message ++ "\""
  | noSamples =>
    "Request data.samplestrings contains no sample strings. " ++
      "You must provide at least one empty string"
  | tooManySamples limit count => excess .samples "sample strings" limit count
  | sampleKind index found =>
    sampleField index ++ " is invalid. Expecting string. Found " ++ found.kind ++ "."
  | longSample index limit length =>
    sampleField index ++ " has too many characters. We only allow " ++ toString limit ++
      " characters per sample. Received " ++ toString length
  | longSamples limit total =>
    "The cumulative character count of data.samplestrings (" ++ toString total ++
      ") exceeds the maximum cumulative character count (" ++ toString limit ++ ")"
  | missingLength setting =>
    "Request data.matchConfig is missing the " ++ setting.name ++ " field."
  | lengthKind setting limit found =>
    lengthRule setting limit ++ ". " ++ found.kind ++ " given."
  | lengthRange setting limit given =>
    lengthRule setting limit ++ ". " ++ toString given ++ " given."

def display (r : Rejection) : String := "[" ++ toString r.code ++ "] " ++ r.message

end Rejection

end Envelope

end RegexGateway
