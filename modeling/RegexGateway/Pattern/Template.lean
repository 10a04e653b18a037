import RegexGateway.Text.Bytes

namespace RegexGateway

namespace Template

/-- A part of a template. Groups are numbered from 1. -/
inductive Part where
  | literal (text : List Char)
  | number (n : Nat)
  | name (text : List Char)
  | whole
  | before
  | after
  deriving DecidableEq, Repr

inductive Piece where
  | char (c : Char)
  | reference (part : Part)
  deriving DecidableEq, Repr

end Template

abbrev Template := List Template.Part

structure TemplateError where
  reference : List Char
  deriving DecidableEq, Repr

def TemplateError.message (e : TemplateError) : String :=
  "invalid group reference `" ++ String.ofList e.reference ++ "` in replacement"

namespace Template

def maxNumber : Nat := UInt32.size - 1

def digitsValue (digits : List Char) : Nat :=
  digits.foldl (fun n c => 10 * n + (c.toNat - 48)) 0

def numberPart (n : Nat) : Part := if n = 0 then .whole else .number n

/-- The reference by digits. A number that is too great stands for the greatest. -/
def digitsPart (digits : List Char) : Part := numberPart (min (digitsValue digits) maxNumber)

def nameNumber? (name : List Char) : Option Nat :=
  let digits := if name.head? = some '+' then name.drop 1 else name
  if !digits.isEmpty && digits.all Char.isDigit && digitsValue digits ≤ maxNumber then
    some (digitsValue digits)
  else none

def namePart (name : List Char) : Part :=
  match nameNumber? name with
  | some n => numberPart n
  | none => .name name

def readName (opening closing : Char) (text : List Char) :
    Except TemplateError (Piece × List Char) :=
  let name := text.takeWhile (· ≠ closing)
  match text.drop name.length with
  | [] => .error ⟨opening :: name⟩
  | _ :: rest =>
    if name.isEmpty then .error ⟨[opening, closing]⟩ else .ok (.reference (namePart name), rest)

/-- Reads what follows a dollar sign. One that starts no reference stands for itself. -/
def readDollar (text : List Char) : Except TemplateError (Piece × List Char) :=
  match text with
  | '$' :: rest => .ok (.char '$', rest)
  | '&' :: rest => .ok (.reference .whole, rest)
  | '\x60' :: rest => .ok (.reference .before, rest)
  | '\'' :: rest => .ok (.reference .after, rest)
  | '\x7b' :: rest => readName '\x7b' '\x7d' rest
  | '<' :: rest => readName '<' '>' rest
  | text =>
    let digits := (text.take 2).takeWhile Char.isDigit
    if digits.isEmpty then .ok (.char '$', text)
    else .ok (.reference (digitsPart digits), text.drop digits.length)

/-- Reads what follows a backslash. One at the end stands for itself. -/
def readEscape (text : List Char) : Except TemplateError (Piece × List Char) :=
  match text with
  | [] => .ok (.char '\\', [])
  | 'g' :: '\x7b' :: rest => readName '\x7b' '\x7d' rest
  | c :: rest =>
    let digits := (c :: rest).takeWhile Char.isDigit
    if digits.isEmpty then .ok (.char c, rest)
    else .ok (.reference (digitsPart digits), (c :: rest).drop digits.length)

/-- Reads a text as pieces. Each takes a character at least, so its length is fuel enough. -/
def readPieces (fuel : Nat) (text : List Char) : Except TemplateError (List Piece) :=
  match fuel, text with
  | 0, _ | _, [] => .ok []
  | fuel + 1, c :: rest => do
    let (piece, rest) ←
      if c = '$' then readDollar rest
      else if c = '\\' then readEscape rest
      else pure (.char c, rest)
    return piece :: (← readPieces fuel rest)

def consPiece : Piece → Template → Template
  | .char c, .literal text :: parts => .literal (c :: text) :: parts
  | .char c, parts => .literal [c] :: parts
  | .reference part, parts => part :: parts

/-- Reads a template. `$&` stands for the match, `$1` or `\1` for a group, `${name}`, `$<name>` or
`\g{name}` for a group by its name or number, and a dollar sign with a grave accent or an apostrophe
for the text before or after the match. `$$` is a dollar sign, and a backslash before any other
character gives that character. -/
def parse (text : List Char) : Except TemplateError Template := do
  return (← readPieces text.length text).foldr consPiece []

def blankEscape? (c : Char) : Option Char :=
  [('n', '\n'), ('r', '\r'), ('t', '\t'), ('f', '\x0c'), ('v', '\x0b')].lookup c

/-- A text with its escapes of white space undone. All other escapes stay. -/
def unescape : List Char → List Char
  | '\\' :: c :: rest =>
    match blankEscape? c with
    | some blank => blank :: unescape rest
    | none => '\\' :: c :: unescape rest
  | c :: rest => c :: unescape rest
  | [] => []

structure Context where
  text : List Char
  span : Span
  groups : List (Option Span)
  names : List (Option String)

/-- The text of a group. One that is not there or took no part has none. -/
def Context.group (context : Context) (index : Nat) : List Char :=
  match context.groups[index]? with
  | some (some span) => Text.slice context.text span
  | _ => []

/-- What a part stands for. Of several groups with one name the first counts. -/
def Part.expand (context : Context) : Part → List Char
  | .literal text => text
  | .whole => Text.slice context.text context.span
  | .before => Text.takeBytes context.text context.span.start
  | .after => Text.dropBytes context.text context.span.stop
  | .number 0 => []
  | .number (n + 1) => context.group n
  | .name word =>
    match context.names.findIdx? (· = some (String.ofList word)) with
    | some index => context.group index
    | none => []

def expand (template : Template) (context : Context) : List Char :=
  template.flatMap (Part.expand context)

end Template

end RegexGateway
