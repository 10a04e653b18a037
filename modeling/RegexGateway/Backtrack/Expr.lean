import RegexGateway.Regex.Expr

namespace RegexGateway

namespace Backtrack

inductive Assertion where
  | textStart
  | textEnd
  | lineStart
  | lineEnd
  | wordStart
  | wordEnd
  | wordBoundary
  | notWordBoundary
  deriving DecidableEq, Repr

namespace Assertion

def isHard : Assertion → Bool
  | wordStart | wordEnd | wordBoundary | notWordBoundary => true
  | _ => false

def look : Assertion → Regex.Look
  | textStart => .textStart
  | textEnd => .textEnd
  | lineStart => .lineStart
  | lineEnd => .lineEnd
  | wordStart => .word .start true
  | wordEnd => .word .stop true
  | wordBoundary => .word .either true
  | notWordBoundary => .word .neither true

end Assertion

structure LookAround where
  behind : Bool
  negative : Bool
  deriving DecidableEq, Repr

/-- A regular expression. A class is kept as the standard dialect spells it. -/
inductive Expr where
  | empty
  | any (newline : Bool)
  | assertion (kind : Assertion)
  | literal (char : Char) (ignoreCase : Bool)
  | concat (parts : List Expr)
  | alternation (branches : List Expr)
  | group (sub : Expr)
  | lookAround (kind : LookAround) (sub : Expr)
  | repetition (least : Nat) (most : Option Nat) (greedy : Bool) (sub : Expr)
  | charClass (spelling : List Char) (ignoreCase : Bool)
  | reference (group : Nat)
  | atomic (sub : Expr)
  | keepOut
  | searchStart
  | groupMatched (group : Nat)
  | conditional (condition ifTrue ifFalse : Expr)
  deriving Repr, Inhabited

namespace Expr

def ofParts : List Expr → Expr
  | [] => empty
  | [e] => e
  | parts => concat parts

def isEmpty : Expr → Bool
  | empty => true
  | _ => false

def isRepeatable : Expr → Bool
  | lookAround .. | empty | assertion _ => false
  | _ => true

def quoted : List Char := "\\.+*?()|[]\x7b\x7d^$#".toList

def quote (c : Char) : List Char := if c ∈ quoted then ['\\', c] else [c]

def enclosed (flags : List Char) (pattern : List Char) : List Char :=
  "(?".toList ++ flags ++ ':' :: pattern ++ [')']

def enclosedIf (needed : Bool) (pattern : List Char) : List Char :=
  if needed then enclosed [] pattern else pattern

def operator (least : Nat) (most : Option Nat) : List Char :=
  match least, most with
  | 0, some 1 => ['?']
  | 0, none => ['*']
  | 1, none => ['+']
  | n, none => '\x7b' :: (toString n).toList ++ [',', '\x7d']
  | n, some m =>
    '\x7b' :: (toString n).toList ++ (if n = m then [] else ',' :: (toString m).toList) ++
      ['\x7d']

mutual

/-- The pattern of the standard dialect for an expression that needs no backtracking. A level says
how tightly the pattern around it binds: 0 not at all, 1 in an alternation, 2 in a sequence, 3
under a repetition. -/
def pattern (level : Nat) : Expr → List Char
  | any newline => if newline then enclosed ['s'] ['.'] else ['.']
  | literal c ignoreCase => if ignoreCase then enclosed ['i'] (quote c) else quote c
  | assertion .textStart => ['^']
  | assertion .textEnd => ['$']
  | assertion .lineStart => enclosed ['m'] ['^']
  | assertion .lineEnd => enclosed ['m'] ['$']
  | concat parts => enclosedIf (1 < level) (patterns 2 parts).flatten
  | alternation branches =>
    enclosedIf (0 < level) (['|'].intercalate (patterns 1 branches))
  | group sub => '(' :: sub.pattern 0 ++ [')']
  | repetition least most greedy sub =>
    enclosedIf (2 < level)
      (sub.pattern 3 ++ operator least most ++ if greedy then [] else ['?'])
  | charClass spelling ignoreCase => if ignoreCase then enclosed ['i'] spelling else spelling
  | _ => []

def patterns (level : Nat) : List Expr → List (List Char)
  | [] => []
  | e :: rest => e.pattern level :: patterns level rest

end

end Expr

end Backtrack

end RegexGateway
