import RegexGateway.Json.Numeral
import RegexGateway.Text.Bytes

namespace RegexGateway

namespace Json

def isBlank (c : Char) : Bool := c = ' ' || c = '\n' || c = '\t' || c = '\r'

def skipBlank (text : List Char) : List Char := text.dropWhile isBlank

def hexValue? (c : Char) : Option Nat :=
  if c.isDigit then some (c.toNat - 48)
  else if 'a' ≤ c ∧ c ≤ 'f' then some (c.toNat - 87)
  else if 'A' ≤ c ∧ c ≤ 'F' then some (c.toNat - 55)
  else none

def readHex (text : List Char) : Except SyntaxError (Nat × List Char) :=
  match text with
  | a :: b :: c :: d :: rest =>
    match hexValue? a, hexValue? b, hexValue? c, hexValue? d with
    | some a, some b, some c, some d => .ok (((a * 16 + b) * 16 + c) * 16 + d, rest)
    | _, _, _, _ => .error .invalidEscape
  | _ => .error (if Text.byteLength text < 4 then .endOfString else .invalidEscape)

def simpleEscapes : List (Char × Char) :=
  [('"', '"'), ('\\', '\\'), ('/', '/'), ('b', '\x08'), ('f', '\x0c'), ('n', '\n'), ('r', '\r'),
    ('t', '\t')]

def isLeading (n : Nat) : Bool := 0xD800 ≤ n && n ≤ 0xDBFF

def isTrailing (n : Nat) : Bool := 0xDC00 ≤ n && n ≤ 0xDFFF

def readUnicode (text : List Char) : Except SyntaxError (Char × List Char) := do
  let (n, rest) ← readHex text
  if isTrailing n then throw .unpairedSurrogate
  if !isLeading n then return (Char.ofNat n, rest)
  match rest with
  | [] => throw .endOfString
  | '\\' :: [] => throw .endOfString
  | '\\' :: 'u' :: tail =>
    let (m, rest) ← readHex tail
    if !isTrailing m then throw .unpairedSurrogate
    return (Char.ofNat ((n - 0xD800) * 0x400 + (m - 0xDC00) + 0x10000), rest)
  | _ => throw .unpairedLeadingSurrogate

def readString (fuel : Nat) (text : List Char) : Except SyntaxError (List Char × List Char) :=
  match fuel with
  | 0 => .error .endOfString
  | fuel + 1 =>
    match text with
    | [] => .error .endOfString
    | '"' :: rest => .ok ([], rest)
    | '\\' :: [] => .error .endOfString
    | '\\' :: 'u' :: tail => do
      let (c, rest) ← readUnicode tail
      let (cs, rest) ← readString fuel rest
      return (c :: cs, rest)
    | '\\' :: e :: tail => do
      let some c := simpleEscapes.lookup e | throw .invalidEscape
      let (cs, rest) ← readString fuel tail
      return (c :: cs, rest)
    | c :: tail => do
      if c.toNat < 32 then throw .controlCharacter
      let (cs, rest) ← readString fuel tail
      return (c :: cs, rest)

def skipString (fuel : Nat) (text : List Char) : Except SyntaxError (List Char) :=
  match fuel with
  | 0 => .error .endOfString
  | fuel + 1 =>
    match text with
    | [] => .error .endOfString
    | '"' :: rest => .ok rest
    | '\\' :: [] => .error .endOfString
    | '\\' :: 'u' :: tail => do
      let (_, rest) ← readHex tail
      skipString fuel rest
    | '\\' :: e :: tail =>
      if (simpleEscapes.lookup e).isSome then skipString fuel tail else .error .invalidEscape
    | c :: tail => if c.toNat < 32 then .error .controlCharacter else skipString fuel tail

/-- A string from after its opening quote: what it stands for and the text after it, or the fault
where it breaks off. -/
def scanString (text : List Char) : Except Fault (Except SyntaxError String × List Char) :=
  let content := (readString (text.length + 1) text).map fun s => String.ofList s.1
  match skipString (text.length + 1) text with
  | .ok rest => .ok (content, rest)
  | .error skipping =>
    let reading := match content with
      | .error e => e
      | .ok _ => skipping
    .error ⟨reading, skipping, skipping⟩

/-- What a number lacks here: a text that ends is told from one that goes on in another way, unless
the number is skipped. -/
def numberFault (text : List Char) : Fault :=
  ⟨if text.isEmpty then .endOfValue else .invalidNumber, .invalidNumber, .invalidNumber⟩

def scanDigits (text : List Char) : Except Fault (List Char × List Char) :=
  let digits := text.takeWhile Char.isDigit
  let rest := text.drop digits.length
  if digits.isEmpty then .error (numberFault rest) else .ok (digits, rest)

/-- Reads a number. The first of several digits before the point is no zero. -/
def scanNumeral (text : List Char) : Except Fault (Numeral × List Char) := do
  let negative := text.head? = some '-'
  let (whole, rest) ← scanDigits (if negative then text.drop 1 else text)
  if whole.head? = some '0' ∧ 1 < whole.length then throw (.of .invalidNumber)
  let (fraction, rest) ← match rest with
    | '.' :: tail => do
      let (digits, rest) ← scanDigits tail
      pure (some digits, rest)
    | _ => pure (none, rest)
  let (exponent, rest) ← match rest with
    | 'e' :: tail | 'E' :: tail => do
      let signed := tail.head? = some '-' ∨ tail.head? = some '+'
      let (digits, rest) ← scanDigits (if signed then tail.drop 1 else tail)
      pure (some ((tail.head? = some '-' : Bool), digits), rest)
    | _ => pure (none, rest)
  return (⟨negative, whole, fraction, exponent⟩, rest)

def scanWord (value : Node) : List Char → List Char → Node × List Char
  | [], text => (value, text)
  | _ :: _, [] => (.fault (.of .endOfValue), [])
  | c :: word, d :: text =>
    if c = d then scanWord value word text else (.fault (.of .identifierExpected), [])

/-- How deep lists and objects may lie to be read. -/
def depthLimit : Nat := 128

mutual

/-- Reads a value at a depth, and gives the text after it. After a fault no text is left that
matters. Each step takes a character or leads one way down, so twice as much fuel as there are
characters is enough. -/
def readNode (fuel depth : Nat) (text : List Char) : Node × List Char :=
  match fuel with
  | 0 => (.fault (.of .endOfValue), [])
  | fuel + 1 =>
    match skipBlank text with
    | [] => (.fault (.of .endOfValue), [])
    | 'n' :: rest => scanWord .null "ull".toList rest
    | 't' :: rest => scanWord (.bool true) "rue".toList rest
    | 'f' :: rest => scanWord (.bool false) "alse".toList rest
    | '"' :: rest =>
      match scanString rest with
      | .ok (value, rest) => (.string value, rest)
      | .error f => (.fault f, [])
    | '[' :: rest =>
      let (items, rest) := readItems fuel (depth + 1) true rest
      (.list (depthLimit ≤ depth + 1) items, rest)
    | '\x7b' :: rest =>
      let (fields, rest) := readFields fuel (depth + 1) true rest
      (.object (depthLimit ≤ depth + 1) fields, rest)
    | c :: rest =>
      if c = '-' ∨ c.isDigit then
        match scanNumeral (c :: rest) with
        | .ok (numeral, rest) => (.number numeral.value, rest)
        | .error f => (.fault f, [])
      else (.fault (.of .valueExpected), [])

def readItems (fuel depth : Nat) (first : Bool) (text : List Char) : Items × List Char :=
  match fuel with
  | 0 => (.fault (.of .endOfList), [])
  | fuel + 1 =>
    let readItem (text : List Char) : Items × List Char :=
      let (value, rest) := readNode fuel depth text
      let (items, rest) := readItems fuel depth false rest
      (.item value items, rest)
    match skipBlank text with
    | [] => (.fault (.of .endOfList), [])
    | ']' :: rest => (.close, rest)
    | c :: rest =>
      if first then readItem (c :: rest)
      else if c ≠ ',' then (.fault ⟨.listSeparator, .listSeparator, .trailingCharacters⟩, [])
      else match skipBlank rest with
        | [] => (.fault ⟨.endOfValue, .endOfValue, .trailingCharacters⟩, [])
        | ']' :: _ => (.fault ⟨.trailingComma, .valueExpected, .trailingComma⟩, [])
        | c :: rest => readItem (c :: rest)

def readFields (fuel depth : Nat) (first : Bool) (text : List Char) : Fields × List Char :=
  match fuel with
  | 0 => (.fault (.of .endOfObject), [])
  | fuel + 1 =>
    let readField (text : List Char) : Fields × List Char :=
      match scanString text with
      | .error f => (.fault f, [])
      | .ok (key, rest) =>
        match skipBlank rest with
        | [] => (.field key (.fault (.of .endOfObject)) .close, [])
        | ':' :: rest =>
          let (value, rest) := readNode fuel depth rest
          let (fields, rest) := readFields fuel depth false rest
          (.field key value fields, rest)
        | _ => (.field key (.fault (.of .colonExpected)) .close, [])
    match skipBlank text with
    | [] => (.fault (.of .endOfObject), [])
    | '\x7d' :: rest => (.close, rest)
    | c :: rest =>
      if first then
        if c = '"' then readField rest else (.fault (.of .keyNotString), [])
      else if c ≠ ',' then (.fault (.of .objectSeparator), [])
      else match skipBlank rest with
        | [] => (.fault ⟨.endOfValue, .endOfObject, .endOfObject⟩, [])
        | '"' :: rest => readField rest
        | '\x7d' :: _ => (.fault ⟨.trailingComma, .keyNotString, .trailingComma⟩, [])
        | _ => (.fault (.of .keyNotString), [])

end

def Document.ofText (text : String) : Document :=
  let chars := text.toList
  let (root, rest) := readNode (2 * chars.length + 2) 0 chars
  ⟨root, !(skipBlank rest).isEmpty⟩

end Json

end RegexGateway
