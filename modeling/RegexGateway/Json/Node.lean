import RegexGateway.Json.Basic

namespace RegexGateway

namespace Json

inductive SyntaxError where
  | endOfValue
  | endOfObject
  | endOfList
  | endOfString
  | valueExpected
  | identifierExpected
  | listSeparator
  | objectSeparator
  | colonExpected
  | keyNotString
  | trailingComma
  | trailingCharacters
  | invalidNumber
  | numberOutOfRange
  | invalidEscape
  | unpairedLeadingSurrogate
  | unpairedSurrogate
  | controlCharacter
  | recursionLimit
  deriving DecidableEq, Repr

def SyntaxError.message : SyntaxError → String
  | endOfValue => "EOF while parsing a value"
  | endOfObject => "EOF while parsing an object"
  | endOfList => "EOF while parsing a list"
  | endOfString => "EOF while parsing a string"
  | valueExpected => "expected value"
  | identifierExpected => "expected ident"
  | listSeparator => "expected `,` or `]`"
  | objectSeparator => "expected `,` or `\x7d`"
  | colonExpected => "expected `:`"
  | keyNotString => "key must be a string"
  | trailingComma => "trailing comma"
  | trailingCharacters => "trailing characters"
  | invalidNumber => "invalid number"
  | numberOutOfRange => "number out of range"
  | invalidEscape => "invalid escape"
  | unpairedLeadingSurrogate => "unexpected end of hex escape"
  | unpairedSurrogate => "lone leading surrogate in hex escape"
  | controlCharacter =>
    "control character (\\u0000-\\u001F) found while parsing a string"
  | recursionLimit => "recursion limit exceeded"

/-- Where a text cannot go on: what a reader of the values says, what one says that skips them, and
what one says that expects a list to end here. A reader meets the place only if it looks there. -/
structure Fault where
  reading : SyntaxError
  skipping : SyntaxError
  closing : SyntaxError
  deriving DecidableEq, Repr

def Fault.of (e : SyntaxError) : Fault := ⟨e, e, e⟩

inductive Number where
  | int (n : Int)
  | float (x : Float)

mutual

/-- A value of a text. A string or a number that is well-formed may still stand for nothing. A list
or an object may lie too deep to be read; it can be skipped all the same. -/
inductive Node where
  | null
  | bool (b : Bool)
  | number (value : Except SyntaxError Number)
  | string (value : Except SyntaxError String)
  | list (deep : Bool) (items : Items)
  | object (deep : Bool) (fields : Fields)
  | fault (f : Fault)

inductive Items where
  | close
  | fault (f : Fault)
  | item (value : Node) (rest : Items)

inductive Fields where
  | close
  | fault (f : Fault)
  | field (key : Except SyntaxError String) (value : Node) (rest : Fields)

end

instance : Inhabited Node := ⟨.null⟩

structure Document where
  root : Node
  trailing : Bool

mutual

def node : Json → Node
  | null => .null
  | bool b => .bool b
  | int n => .number (.ok (.int n))
  | float x => .number (.ok (.float x))
  | str s => .string (.ok s)
  | arr items => .list false (nodeItems items)
  | obj fields => .object false (nodeFields fields)

def nodeItems : List Json → Items
  | [] => .close
  | j :: rest => .item j.node (nodeItems rest)

def nodeFields : List (String × Json) → Fields
  | [] => .close
  | (k, j) :: rest => .field (.ok k) j.node (nodeFields rest)

end

mutual

def Node.skip : Node → Except SyntaxError Unit
  | .list _ items => items.skip
  | .object _ fields => fields.skip
  | .fault f => .error f.skipping
  | _ => .ok ()

def Items.skip : Items → Except SyntaxError Unit
  | .close => .ok ()
  | .fault f => .error f.skipping
  | .item value rest => do
    value.skip
    rest.skip

def Fields.skip : Fields → Except SyntaxError Unit
  | .close => .ok ()
  | .fault f => .error f.skipping
  | .field _ value rest => do
    value.skip
    rest.skip

end

mutual

def Node.toJson : Node → Except SyntaxError Json
  | .null => .ok .null
  | .bool b => .ok (.bool b)
  | .number value => do
    match ← value with
    | .int n => return .int n
    | .float x => return .float x
  | .string value => do return .str (← value)
  | .list deep items =>
    if deep then .error .recursionLimit else do return .arr (← items.toJsons)
  | .object deep fields =>
    if deep then .error .recursionLimit else do return .obj (← fields.toJsons)
  | .fault f => .error f.reading

def Items.toJsons : Items → Except SyntaxError (List Json)
  | .close => .ok []
  | .fault f => .error f.reading
  | .item value rest => do
    let j ← value.toJson
    return j :: (← rest.toJsons)

def Fields.toJsons : Fields → Except SyntaxError (List (String × Json))
  | .close => .ok []
  | .fault f => .error f.reading
  | .field key value rest => do
    let k ← key
    let j ← value.toJson
    return (k, j) :: (← rest.toJsons)

end

def Document.toJson (d : Document) : Except SyntaxError Json := do
  let j ← d.root.toJson
  if d.trailing then .error .trailingCharacters else .ok j

end Json

end RegexGateway
