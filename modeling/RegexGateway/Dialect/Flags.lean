namespace RegexGateway

structure FlagSet where
  caseInsensitive : Bool
  multiLine : Bool
  dotAll : Bool
  extended : Bool
  swapGreed : Bool
  unicode : Bool
  dupNames : Bool
  anchored : Bool
  dollarEndOnly : Bool
  deriving DecidableEq, Repr

namespace FlagSet

/-- The flags that modifier letters name. Letters that name none do not matter. -/
def ofModifiers (modifiers : List Char) : FlagSet where
  caseInsensitive := 'i' ∈ modifiers
  multiLine := 'm' ∈ modifiers
  dotAll := 's' ∈ modifiers
  extended := 'x' ∈ modifiers
  swapGreed := 'U' ∈ modifiers
  unicode := 'u' ∈ modifiers
  dupNames := 'J' ∈ modifiers
  anchored := 'A' ∈ modifiers
  dollarEndOnly := 'D' ∈ modifiers

def inline (f : FlagSet) : List Char :=
  let letters :=
    (if f.caseInsensitive then ['i'] else []) ++ (if f.multiLine then ['m'] else []) ++
    (if f.dotAll then ['s'] else []) ++ (if f.extended then ['x'] else []) ++
    (if f.swapGreed then ['U'] else [])
  if letters.isEmpty then [] else ['(', '?'] ++ letters ++ [')']

end FlagSet

end RegexGateway
