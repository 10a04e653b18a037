import RegexGateway.Json.Printer
import RegexGateway.Json.Reader
import RegexGateway.Text.Debug

namespace RegexGateway

namespace Json

inductive Found where
  | null
  | bool (b : Bool)
  | number (n : Number)
  | string (s : String)
  | sequence
  | map

def Found.name : Found → String
  | null => "null"
  | bool b => "boolean `" ++ toString b ++ "`"
  | number (.int n) => "integer `" ++ toString n ++ "`"
  | number (.float x) => "floating point `" ++ floatFormat.text x ++ "`"
  | string s => "string " ++ Text.debug s
  | sequence => "sequence"
  | map => "map"

inductive DecodeError where
  | syntaxError (e : SyntaxError)
  | wrongType (found : Found) (expected : String)
  | wrongValue (found : Found) (expected : String)
  | wrongLength (length : Nat) (expected : String)
  | missingField (name : String)
  | duplicateField (name : String)
  | unknownVariant (name : String) (known : List String)
  | rejected (reason : String)

def choice : List String → String
  | [a] => "`" ++ a ++ "`"
  | [a, b] => "`" ++ a ++ "` or `" ++ b ++ "`"
  | names => "one of " ++ ", ".intercalate (names.map fun n => "`" ++ n ++ "`")

def DecodeError.message : DecodeError → String
  | syntaxError e => e.message
  | wrongType found expected => "invalid type: " ++ found.name ++ ", expected " ++ expected
  | wrongValue found expected => "invalid value: " ++ found.name ++ ", expected " ++ expected
  | wrongLength n expected => "invalid length " ++ toString n ++ ", expected " ++ expected
  | missingField name => "missing field `" ++ name ++ "`"
  | duplicateField name => "duplicate field `" ++ name ++ "`"
  | unknownVariant name known => "unknown variant `" ++ name ++ "`, expected " ++ choice known
  | rejected reason => reason

abbrev Decoded := Except DecodeError

def ofText {α : Type} (result : Except SyntaxError α) : Decoded α :=
  result.mapError .syntaxError

/-- Whether a value is read straight from a text, or from a value that had to be read before its
type was known. -/
inductive Source where
  | direct
  | buffered
  deriving DecidableEq, Repr

def Node.found : Node → Decoded Found
  | .null => .ok .null
  | .bool b => .ok (.bool b)
  | .number value => ofText (value.map .number)
  | .string value => ofText (value.map .string)
  | .list .. => .ok .sequence
  | .object .. => .ok .map
  | .fault f => .error (.syntaxError f.reading)

def Node.refuse {α : Type} (n : Node) (expected : String) : Decoded α := do
  throw (.wrongType (← n.found) expected)

/-- How values of a type are written to JSON and read from it. -/
structure Codec (α : Type) where
  encode : α → Json
  decode : Source → Node → Decoded α

namespace Codec

variable {α : Type}

def bool : Codec Bool where
  encode := .bool
  decode _ n := match n with
    | .bool b => .ok b
    | n => n.refuse "a boolean"

def string : Codec String where
  encode := .str
  decode _ n := match n with
    | .string value => ofText value
    | n => n.refuse "a string"

def char : Codec Char where
  encode c := .str c.toString
  decode _ n := match n with
    | .string value => do
      let s ← ofText value
      match s.toList with
      | [c] => .ok c
      | _ => .error (.wrongValue (.string s) "a character")
    | n => n.refuse "a character"

def decodeInt (low high : Int) (expected : String) (n : Node) : Decoded Int :=
  match n with
  | .number value => do
    match ← ofText value with
    | .int n =>
      if low ≤ n ∧ n ≤ high then .ok n else .error (.wrongValue (.number (.int n)) expected)
    | .float x => .error (.wrongType (.number (.float x)) expected)
  | n => n.refuse expected

def int : Codec Int where
  encode := .int
  decode _ := decodeInt (-0x8000000000000000) 0x7fffffffffffffff "i64"

def nat : Codec Nat where
  encode n := .int n
  decode _ n := (decodeInt 0 0xffffffffffffffff "usize" n).map Int.toNat

def float : Codec Float where
  encode := .float
  decode _ n := match n with
    | .number value => do
      match ← ofText value with
      | .int n =>
        let x := (UInt64.ofNat n.natAbs).toFloat
        .ok (if n < 0 then -x else x)
      | .float x => .ok x
    | n => n.refuse "f64"

def nullable (c : Codec α) : Codec (Option α) where
  encode
    | none => .null
    | some a => c.encode a
  decode source n := match n with
    | .null => .ok none
    | n => (c.decode source n).map some

def decodeItems (decode : Node → Decoded α) : Items → Decoded (List α)
  | .close => .ok []
  | .fault f => .error (.syntaxError f.reading)
  | .item value rest => do
    let a ← decode value
    return a :: (← decodeItems decode rest)

def list (c : Codec α) : Codec (List α) where
  encode items := .arr (items.map c.encode)
  decode source n := match n with
    | .list deep items =>
      if deep then .error (.syntaxError .recursionLimit)
      else decodeItems (c.decode source) items
    | n => n.refuse "a sequence"

def decodeFields (decode : Node → Decoded α) : Fields → Decoded (List (String × α))
  | .close => .ok []
  | .fault f => .error (.syntaxError f.reading)
  | .field key value rest => do
    let k ← ofText key
    let a ← decode value
    return (k, a) :: (← decodeFields decode rest)

def fields (c : Codec α) (expected : String) : Codec (List (String × α)) where
  encode fields := .obj (fields.map fun (k, a) => (k, c.encode a))
  decode source n := match n with
    | .object deep fields =>
      if deep then .error (.syntaxError .recursionLimit)
      else decodeFields (c.decode source) fields
    | n => n.refuse expected

/-- The name of a variant, written as a string. An object that holds the name as its only key, with
null under it, is read as well. -/
def decodeName (known : List String) : Node → Decoded String
  | .string value => do check (← ofText value)
  | .object deep fields =>
    if deep then .error (.syntaxError .recursionLimit)
    else match fields with
      | .close => .error (.syntaxError .valueExpected)
      | .fault f =>
        .error (.syntaxError (if f.reading = .endOfObject then .endOfValue else .valueExpected))
      | .field key value rest => do
        let name ← check (← ofText key)
        match value with
        | .null =>
          match rest with
          | .close => .ok name
          | .fault f =>
            .error (.syntaxError
              (if f.reading = .endOfObject then .endOfObject else .valueExpected))
          | .field .. => .error (.syntaxError .valueExpected)
        | n => n.refuse "unit"
  | .fault f => .error (.syntaxError f.reading)
  | _ => .error (.syntaxError .valueExpected)
where
  check (name : String) : Decoded String :=
    if name ∈ known then .ok name else .error (.unknownVariant name known)

def named (values : List α) (name : α → String) : Codec α where
  encode a := .str (name a)
  decode _ n := do
    let s ← decodeName (values.map name) n
    match values.find? fun a => name a = s with
    | some a => .ok a
    | none => .error (.unknownVariant s (values.map name))

def along {β : Type} (c : Codec α) (view : β → α) (make : α → β) : Codec β where
  encode b := c.encode (view b)
  decode source n := (c.decode source n).map make

def refine {β : Type} (c : Codec α) (view : β → α) (make : α → Decoded β) : Codec β where
  encode b := c.encode (view b)
  decode source n := do make (← c.decode source n)

def text : Codec (List Char) := string.along String.ofList String.toList

def ofString (c : Codec α) (text : String) : Decoded α := do
  let d := Document.ofText text
  let a ← c.decode .direct d.root
  if d.trailing then .error (.syntaxError .trailingCharacters) else .ok a

def ofJson (c : Codec α) (j : Json) : Decoded α := c.decode .buffered j.node

def toString (c : Codec α) (a : α) : String := (c.encode a).compact

end Codec

end Json

end RegexGateway
