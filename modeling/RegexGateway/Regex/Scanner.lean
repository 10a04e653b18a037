import RegexGateway.Regex.Syntax

namespace RegexGateway

namespace Regex

/-- Where a reader stands: the offset of the next character, the text from there on, whether blanks
count, and the capture groups met so far. -/
structure Reader where
  pos : Nat
  rest : List Char
  ignoreSpace : Bool
  captures : Nat
  names : List (String × Span)

/-- A reading step, which may fail at a place in the pattern. -/
abbrev Read := StateT Reader (Except LocatedError)

namespace Reader

def ofPattern (pattern : List Char) (ignoreSpace : Bool) : Reader :=
  ⟨0, pattern, ignoreSpace, 0, []⟩

def next (r : Reader) : Reader :=
  match r.rest with
  | [] => r
  | _ :: rest => { r with pos := r.pos + 1, rest }

def skipComment : Nat → List Char → Nat × List Char
  | pos, [] => (pos, [])
  | pos, c :: rest => if c = '\n' then (pos + 1, rest) else skipComment (pos + 1) rest

theorem skipComment_length (pos : Nat) (cs : List Char) :
    (skipComment pos cs).2.length ≤ cs.length := by
  induction cs generalizing pos with
  | nil => simp [skipComment]
  | cons c rest ih =>
    rw [skipComment]
    split
    · simp
    · exact Nat.le_succ_of_le (ih _)

def skipBlank (pos : Nat) (cs : List Char) : Nat × List Char :=
  match cs with
  | [] => (pos, [])
  | c :: rest =>
    if CharSet.space.contains c then skipBlank (pos + 1) rest
    else if c = '#' then
      skipBlank (skipComment (pos + 1) rest).1 (skipComment (pos + 1) rest).2
    else (pos, c :: rest)
termination_by cs.length
decreasing_by
  · simp
  · exact Nat.lt_succ_of_le (skipComment_length _ _)

def settle (r : Reader) : Reader :=
  if r.ignoreSpace then
    let (pos, rest) := skipBlank r.pos r.rest
    { r with pos, rest }
  else r

def advance (r : Reader) : Reader := r.next.settle

def accept? (r : Reader) (text : String) : Option Reader :=
  if text.toList.isPrefixOf r.rest then
    some { r with pos := r.pos + text.length, rest := r.rest.drop text.length }
  else none

def here (r : Reader) : Span := ⟨r.pos, r.pos⟩

def charSpan (r : Reader) : Span := ⟨r.pos, r.pos + 1⟩

def since (r : Reader) (start : Nat) : Span := ⟨start, r.pos⟩

/-- The character after the next one, looking past blanks where they do not count. Of a comment
only the mark is passed over. -/
def peekPastBlank (r : Reader) : Option Char :=
  if r.ignoreSpace then
    let after := r.rest.drop 1
    let isBlank := CharSet.space.contains
    let seen := match after.dropWhile isBlank with
      | '#' :: comment => comment.dropWhile isBlank
      | other => other
    match seen with
    | [] => after.head?
    | c :: _ => some c
  else r.rest[1]?

end Reader

def fail {α : Type} (span : Span) (error : SyntaxError) : Read α := throw ⟨span, error⟩

end Regex

end RegexGateway
