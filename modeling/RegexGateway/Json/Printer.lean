import RegexGateway.Decimal.Shortest
import RegexGateway.Json.Basic

namespace RegexGateway

namespace Json

/-- Fractions are shown, and numbers from `1e+16` on and below `1e-5` have an exponent. -/
def floatFormat : Decimal.Format := ⟨some (-5, 15), true⟩

def hexDigit (n : Nat) : Char := (Nat.digitChar n)

def escapeChar (c : Char) : List Char :=
  match c with
  | '"' => ['\\', '"']
  | '\\' => ['\\', '\\']
  | '\x08' => ['\\', 'b']
  | '\x0c' => ['\\', 'f']
  | '\n' => ['\\', 'n']
  | '\r' => ['\\', 'r']
  | '\t' => ['\\', 't']
  | c =>
    if c.toNat < 32 then ['\\', 'u', '0', '0', hexDigit (c.toNat / 16), hexDigit (c.toNat % 16)]
    else [c]

def escape (text : List Char) : List Char := text.flatMap escapeChar

def quote (s : String) : List Char := '"' :: escape s.toList ++ ['"']

/-- The text of a value that has no members. A number that is not finite has none. -/
def scalarText : Json → List Char
  | bool true => "true".toList
  | bool false => "false".toList
  | int n => (toString n).toList
  | float x => if x.isFinite then (floatFormat.text x).toList else "null".toList
  | str s => quote s
  | _ => "null".toList

def joined (separator : List Char) (texts : List (List Char)) : List Char :=
  separator.intercalate texts

mutual

def compactChars : Json → List Char
  | arr items => '[' :: joined [','] (compactItems items) ++ [']']
  | obj fields => '\x7b' :: joined [','] (compactFields fields) ++ ['\x7d']
  | j => scalarText j

def compactItems : List Json → List (List Char)
  | [] => []
  | j :: rest => j.compactChars :: compactItems rest

def compactFields : List (String × Json) → List (List Char)
  | [] => []
  | (k, j) :: rest => (quote k ++ ':' :: j.compactChars) :: compactFields rest

end

def compact (j : Json) : String := String.ofList j.compactChars

def block (depth : Nat) (opening closing : Char) (members : List (List Char)) : List Char :=
  let line (d : Nat) : List Char := '\n' :: List.replicate (2 * d) ' '
  if members.isEmpty then [opening, closing]
  else opening :: line (depth + 1) ++ joined (',' :: line (depth + 1)) members ++ line depth ++
    [closing]

mutual

def prettyChars (depth : Nat) : Json → List Char
  | arr items => block depth '[' ']' (prettyItems (depth + 1) items)
  | obj fields => block depth '\x7b' '\x7d' (prettyFields (depth + 1) fields)
  | j => scalarText j

def prettyItems (depth : Nat) : List Json → List (List Char)
  | [] => []
  | j :: rest => j.prettyChars depth :: prettyItems depth rest

def prettyFields (depth : Nat) : List (String × Json) → List (List Char)
  | [] => []
  | (k, j) :: rest => (quote k ++ ':' :: ' ' :: j.prettyChars depth) :: prettyFields depth rest

end

def pretty (j : Json) : String := String.ofList (j.prettyChars 0)

end Json

end RegexGateway
