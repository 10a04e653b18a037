import RegexGateway.Table.Spec
import RegexGateway.Text.Listing

namespace RegexGateway

structure Defaults where
  delimiters : DelimiterPair
  modifiers : List Char
  deriving DecidableEq, Repr

/-- What an engine can do. -/
structure Capabilities where
  id : String
  name : String
  docsUrl : String
  apiUrl : String
  allowedDelimiters : List Char
  allowedPairs : List DelimiterPair
  allowedModifiers : List Char
  label : ModifiersLabel
  globalModifier : Option Char
  defaults : Defaults
  delimiterRequired : Bool
  access : Access
  dialect : DialectKind
  config : MatchConfig
  deriving DecidableEq, Repr

inductive ValidationError where
  | delimiter (invalid : Char) (allowed : List Char) (fallback : DelimiterPair)
  | modifier (label : ModifiersLabel) (invalid allowed cleaned : List Char)
  deriving DecidableEq, Repr

def verb (count : Nat) : String := if count = 1 then "is" else "are"

namespace ValidationError

def message : ValidationError → String
  | delimiter invalid allowed _ =>
    "Delimiter \"" ++ invalid.toString ++ "\" is invalid. Delimiters must be one of the following: "
      ++ Text.charListing allowed
  | modifier label invalid allowed _ =>
    "The " ++ label.name ++ ": " ++ Text.charListing invalid ++ " " ++ verb invalid.length ++
      " invalid. Only the following " ++ label.name ++ " are valid: " ++ Text.charListing allowed

def field : ValidationError → String
  | delimiter .. => "delimiters"
  | modifier .. => "modifiers"

def invalid : ValidationError → List Char
  | delimiter c .. => [c]
  | modifier _ cs .. => cs

end ValidationError

/-- The characters in the order in which they first occur, each of them once. -/
def distinct : List Char → List Char
  | [] => []
  | c :: rest => c :: (distinct rest).filter (· ≠ c)

namespace Capabilities

/-- Checks the opening delimiter. It takes the closing one along from a pair that is the only one
to have a delimiter in common with the pair given; else it closes as well. -/
def validateDelimiters (caps : Capabilities) (pair : DelimiterPair) :
    Except ValidationError DelimiterPair :=
  if pair.opening ∉ caps.allowedDelimiters then
    .error (.delimiter pair.opening caps.allowedDelimiters caps.defaults.delimiters)
  else
    match caps.allowedPairs.filter fun p =>
        p.opening = pair.opening ∨ p.closing = pair.closing with
    | [p] => .ok p
    | _ => .ok (.symmetric pair.opening)

/-- Checks modifiers, and drops those that come again. -/
def validateModifiers (caps : Capabilities) (raw : List Char) :
    Except ValidationError (List Char) :=
  let cleaned := distinct (raw.filter (· ∈ caps.allowedModifiers))
  let invalid := distinct (raw.filter (· ∉ caps.allowedModifiers))
  if invalid.isEmpty then .ok cleaned
  else .error (.modifier caps.label invalid caps.allowedModifiers cleaned)

end Capabilities

namespace Defaults

def withModifiers (d : Defaults) (caps : Capabilities) (raw : List Char) :
    Except ValidationError Defaults := do
  return { d with modifiers := ← caps.validateModifiers raw }

def withDelimiters (d : Defaults) (caps : Capabilities) (pair : DelimiterPair) :
    Except ValidationError Defaults := do
  return { d with delimiters := ← caps.validateDelimiters pair }

end Defaults

end RegexGateway
