import RegexGateway.Unicode.CharSet
import RegexGateway.Unicode.Alias
import RegexGateway.Unicode.GeneralCategory
import RegexGateway.Unicode.Script
import RegexGateway.Unicode.ScriptExtension
import RegexGateway.Unicode.BinaryProperty
import RegexGateway.Unicode.Age
import RegexGateway.Unicode.Segmentation
import RegexGateway.Unicode.CaseFolding

namespace RegexGateway

namespace PropertyName

/-- Loose matching of names: case, spaces, underscores, hyphens and a leading `is` do not count.
A name that `is` alone would reduce to `c` keeps it, since `isc` names a property of its own. -/
def fold (name : String) : String :=
  let chars := name.toList
  let stripped : List Char := match chars with
    | 'i' :: 's' :: rest | 'I' :: 's' :: rest | 'i' :: 'S' :: rest | 'I' :: 'S' :: rest => rest
    | _ => chars
  let kept : List Char := (stripped.filter fun c => c.toNat < 128 && c ≠ ' ' && c ≠ '_' && c ≠ '-').map
    Char.toLower
  if stripped.length ≠ chars.length ∧ kept = ['c'] then "isc" else String.ofList kept

end PropertyName

inductive PropertyError where
  | unknownName
  | unknownValue
  deriving DecidableEq, Repr

inductive PropertyQuery where
  | named (name : String)
  | valued (name value : String)
  deriving DecidableEq, Repr

namespace CharSet

def row? (table : List (String × String)) (name : String) : Option CharSet :=
  (table.lookup name).map ofGaps

def rows (table : List (String × String)) (names : List String) : CharSet :=
  ofRanges (names.flatMap fun n => match row? table n with
    | some s => s.ranges.toList
    | none => [])

def categoryGroups : List (String × List String) := [
  ("Cased_Letter", ["Uppercase_Letter", "Lowercase_Letter", "Titlecase_Letter"]),
  ("Letter", ["Uppercase_Letter", "Lowercase_Letter", "Titlecase_Letter", "Modifier_Letter",
    "Other_Letter"]),
  ("Mark", ["Nonspacing_Mark", "Spacing_Mark", "Enclosing_Mark"]),
  ("Number", ["Decimal_Number", "Letter_Number", "Other_Number"]),
  ("Other", ["Control", "Format", "Private_Use", "Unassigned"]),
  ("Punctuation", ["Connector_Punctuation", "Dash_Punctuation", "Open_Punctuation",
    "Close_Punctuation", "Initial_Punctuation", "Final_Punctuation", "Other_Punctuation"]),
  ("Separator", ["Space_Separator", "Line_Separator", "Paragraph_Separator"]),
  ("Symbol", ["Math_Symbol", "Currency_Symbol", "Modifier_Symbol", "Other_Symbol"])]

/-- The members of a general category under its long name. Surrogates are no characters, so their
category names no set. -/
def generalCategory? (name : String) : Option CharSet :=
  match name with
  | "ASCII" => some ⟨#[⟨0, 0x7F⟩]⟩
  | "Any" => some all
  | "Assigned" => (row? generalCategoryGaps "Unassigned").map complement
  | _ => match categoryGroups.lookup name with
    | some parts => some (rows generalCategoryGaps parts)
    | none => row? generalCategoryGaps name

/-- The long name of a general category, of the three catch-alls too. -/
def generalCategoryName? (folded : String) : Option String :=
  match folded with
  | "any" => some "Any"
  | "assigned" => some "Assigned"
  | "ascii" => some "ASCII"
  | _ => generalCategoryAliases.lookup folded

def age? (version : String) : Option CharSet :=
  if (ageGaps.lookup version).isSome then
    let older := ageGaps.takeWhile fun r => r.1 ≠ version
    some (rows ageGaps (older.map Prod.fst ++ [version]))
  else none

/-- The set that a lone name stands for: a binary property, a general category or a script. The
short names `cf`, `sc` and `lc` are those of general categories, not of the properties that share
them. -/
def ofName (name : String) : Except PropertyError CharSet :=
  let folded := PropertyName.fold name
  let property := if folded = "cf" ∨ folded = "sc" ∨ folded = "lc" then none
    else propertyAliases.lookup folded
  match property with
  | some long => (row? binaryPropertyGaps long).elim (.error .unknownName) .ok
  | none =>
    match generalCategoryName? folded with
    | some long => (generalCategory? long).elim (.error .unknownValue) .ok
    | none =>
      match scriptAliases.lookup folded with
      | some long => (row? scriptGaps long).elim (.error .unknownValue) .ok
      | none => .error .unknownName

def ofNameValue (name value : String) : Except PropertyError CharSet :=
  let folded := PropertyName.fold value
  let found (long? : Option String) (set? : String → Option CharSet) :=
    match long?.bind set? with
    | some s => Except.ok s
    | none => .error .unknownValue
  match propertyAliases.lookup (PropertyName.fold name) with
  | none => .error .unknownName
  | some "General_Category" => found (generalCategoryName? folded) generalCategory?
  | some "Script" => found (scriptAliases.lookup folded) (row? scriptGaps)
  | some "Script_Extensions" => found (scriptAliases.lookup folded) (row? scriptExtensionGaps)
  | some "Age" => found (ageAliases.lookup folded) age?
  | some "Grapheme_Cluster_Break" =>
    found (graphemeBreakAliases.lookup folded) (row? graphemeBreakGaps)
  | some "Word_Break" => found (wordBreakAliases.lookup folded) (row? wordBreakGaps)
  | some "Sentence_Break" => found (sentenceBreakAliases.lookup folded) (row? sentenceBreakGaps)
  | some _ => .error .unknownValue

def ofQuery : PropertyQuery → Except PropertyError CharSet
  | .named name => ofName name
  | .valued name value => ofNameValue name value

def digit : CharSet := rows generalCategoryGaps ["Decimal_Number"]

def space : CharSet := rows binaryPropertyGaps ["White_Space"]

def word : CharSet :=
  ((rows generalCategoryGaps ["Nonspacing_Mark", "Spacing_Mark", "Enclosing_Mark",
    "Decimal_Number", "Connector_Punctuation"]).union
    (rows binaryPropertyGaps ["Alphabetic", "Join_Control"]))

def orbits : List (List Nat) :=
  (rowWords caseOrbits).map fun o => (o.splitOn ',').map hexValue

def foldCase (s : CharSet) : CharSet :=
  let added := orbits.filter fun o => o.any s.containsCode
  if added.isEmpty then s
  else ofRanges (s.ranges.toList ++ added.flatMap fun o => o.map fun n => ⟨n, n⟩)

def foldAsciiCase (s : CharSet) : CharSet :=
  let letters := (List.range 26).flatMap fun i =>
    (if s.containsCode (65 + i) then [⟨97 + i, 97 + i⟩] else []) ++
    (if s.containsCode (97 + i) then [⟨65 + i, 65 + i⟩] else [])
  ofRanges (s.ranges.toList ++ letters)

end CharSet

end RegexGateway
