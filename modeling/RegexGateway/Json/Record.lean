import RegexGateway.Json.Decode

namespace RegexGateway

namespace Json

/-- What a record without a field has there: nothing, so that the field is required; a value, if
the record is an object; or a value in any case. -/
inductive Absence (α : Type) where
  | required
  | nullable (value : α)
  | default (value : α)

/-- A field of a record. One that is omitted is not written. -/
structure Field (α : Type) where
  name : String
  codec : Codec α
  absence : Absence α
  omitted : α → Bool

namespace Field

variable {α : Type}

def required (name : String) (codec : Codec α) : Field α :=
  ⟨name, codec, .required, fun _ => false⟩

def nullable (name : String) (codec : Codec α) : Field (Option α) :=
  ⟨name, codec.nullable, .nullable none, fun _ => false⟩

def default (name : String) (codec : Codec α) (value : α) : Field α :=
  ⟨name, codec, .default value, fun _ => false⟩

def optional (name : String) (codec : Codec α) : Field (Option α) :=
  ⟨name, codec.nullable, .default none, Option.isNone⟩

def complete (f : Field α) (value : Option α) : Decoded α :=
  match value, f.absence with
  | some a, _ => .ok a
  | none, .nullable a | none, .default a => .ok a
  | none, .required => .error (.missingField f.name)

end Field

abbrev Row : List Type → Type
  | [] => Unit
  | α :: rest => α × Row rest

/-- The values met so far. -/
abbrev Draft : List Type → Type
  | [] => Unit
  | α :: rest => Option α × Draft rest

inductive Shape : List Type → Type 1 where
  | nil : Shape []
  | cons {α : Type} {rest : List Type} (f : Field α) (fields : Shape rest) : Shape (α :: rest)

namespace Shape

def size {ts : List Type} : Shape ts → Nat
  | nil => 0
  | cons _ fields => fields.size + 1

def draft {ts : List Type} : Shape ts → Draft ts
  | nil => ()
  | cons _ fields => (none, fields.draft)

def encode {ts : List Type} : Shape ts → Row ts → List (String × Json)
  | nil, _ => []
  | cons f fields, (a, row) =>
    if f.omitted a then fields.encode row else (f.name, f.codec.encode a) :: fields.encode row

def put {ts : List Type} (source : Source) (key : String) (value : Node) :
    Shape ts → Draft ts → Decoded (Draft ts)
  | nil, _ => do
    ofText (match source with
      | .direct => value.skip
      | .buffered => .ok ())
  | cons f fields, (met, draft) =>
    if key = f.name then
      if met.isSome then .error (.duplicateField key)
      else do return (some (← f.codec.decode source value), draft)
    else do return (met, ← fields.put source key value draft)

def putAll {ts : List Type} (source : Source) (s : Shape ts) :
    Fields → Draft ts → Decoded (Draft ts)
  | .close, draft => .ok draft
  | .fault f, _ => .error (.syntaxError f.reading)
  | .field key value rest, draft => do
    let key ← ofText key
    let draft ← s.put source key value draft
    s.putAll source rest draft

def complete {ts : List Type} : Shape ts → Draft ts → Decoded (Row ts)
  | nil, _ => .ok ()
  | cons f fields, (met, draft) => do
    let a ← f.complete met
    return (a, ← fields.complete draft)

def count (n : Nat) : String := toString n ++ if n = 1 then " element" else " elements"

def length : Items → Nat
  | .item _ rest => length rest + 1
  | _ => 0

def atEnd (source : Source) (n : Nat) (items : Items) : Decoded Unit :=
  match items, source with
  | .close, _ => .ok ()
  | .fault f, _ => .error (.syntaxError f.closing)
  | .item .., .direct => .error (.syntaxError .trailingCharacters)
  | .item .., .buffered => .error (.wrongLength (n + length items) (count n ++ " in sequence"))

def ofItems {ts : List Type} (source : Source) (expected : String) (n : Nat) :
    Shape ts → Items → Decoded (Row ts)
  | nil, items => atEnd source n items
  | cons f fields, .item value rest => do
    let a ← f.codec.decode source value
    return (a, ← fields.ofItems source expected (n + 1) rest)
  | cons f fields, .close =>
    match f.absence with
    | .default a => do return (a, ← fields.ofItems source expected (n + 1) .close)
    | _ => .error (.wrongLength n expected)
  | cons _ _, .fault f => .error (.syntaxError f.reading)

/-- A record with a name, by the row of its values. It may also be read from the list of them. -/
def codec {ts : List Type} (s : Shape ts) (name : String) : Codec (Row ts) where
  encode row := .obj (s.encode row)
  decode source n :=
    let expected := "struct " ++ name
    match n with
    | .object deep fields =>
      if deep then .error (.syntaxError .recursionLimit)
      else do s.complete (← s.putAll source fields s.draft)
    | .list deep items =>
      if deep then .error (.syntaxError .recursionLimit)
      else s.ofItems source (expected ++ " with " ++ count s.size) 0 items
    | n => n.refuse expected

end Shape

end Json

end RegexGateway
