namespace RegexGateway

structure CodeRange where
  first : Nat
  last : Nat
  deriving DecidableEq, Repr, Inhabited

def CodeRange.contains (r : CodeRange) (n : Nat) : Bool :=
  r.first ≤ n && n ≤ r.last

/-- A set of code points. The ranges increase, and no two of them touch. -/
structure CharSet where
  ranges : Array CodeRange
  deriving DecidableEq, Repr, Inhabited

namespace CharSet

def lastCode : Nat := 0x10FFFF

def empty : CharSet := ⟨#[]⟩

def isEmpty (s : CharSet) : Bool := s.ranges.isEmpty

/-- Joins ranges that overlap or touch, given in the order of their first code points. -/
def join : List CodeRange → List CodeRange
  | [] => []
  | r :: rs => go r rs
where
  go (r : CodeRange) : List CodeRange → List CodeRange
    | [] => [r]
    | q :: qs =>
      if q.first ≤ r.last + 1 then go ⟨r.first, max r.last q.last⟩ qs else r :: go q qs

def ofRanges (rs : List CodeRange) : CharSet :=
  ⟨(join ((rs.filter fun r => r.first ≤ r.last).mergeSort fun a b => a.first ≤ b.first)).toArray⟩

def gaps (start : Nat) : List CodeRange → List CodeRange
  | [] => [⟨start, lastCode⟩]
  | r :: rs => ⟨start, r.first - 1⟩ :: gaps (r.last + 1) rs

def singleton (c : Char) : CharSet := ⟨#[⟨c.toNat, c.toNat⟩]⟩

def range (first last : Char) : CharSet := ofRanges [⟨first.toNat, last.toNat⟩]

def all : CharSet := ⟨#[⟨0, lastCode⟩]⟩

def complement (s : CharSet) : CharSet :=
  match s.ranges.toList with
  | r :: rs => ofRanges <|
      (if r.first = 0 then gaps (r.last + 1) rs else gaps 0 (r :: rs))
  | [] => all

def union (s t : CharSet) : CharSet := ofRanges (s.ranges.toList ++ t.ranges.toList)

def inter (s t : CharSet) : CharSet := (s.complement.union t.complement).complement

def diff (s t : CharSet) : CharSet := s.inter t.complement

def symmDiff (s t : CharSet) : CharSet := (s.union t).diff (s.inter t)

def containsCode (s : CharSet) (n : Nat) : Bool := go 0 s.ranges.size
where
  go (lo hi : Nat) : Bool :=
    if lo < hi then
      let mid := (lo + hi) / 2
      match s.ranges[mid]? with
      | none => false
      | some r =>
        if n < r.first then go lo mid
        else if r.last < n then go (mid + 1) hi
        else true
    else false
  termination_by hi - lo

def contains (s : CharSet) (c : Char) : Bool := s.containsCode c.toNat

def isAscii (s : CharSet) : Bool := s.ranges.all fun r => r.last < 128

def hexValue (digits : List Char) : Nat :=
  digits.foldl (fun n c => 16 * n + (if c.isDigit then c.toNat - 48 else c.toNat - 87)) 0

def rowWords (text : String) : List (List Char) :=
  (text.toList.splitOnP Char.isWhitespace).filter fun w => !w.isEmpty

/-- Reads a table row: in turn the gap before a range and the range's length less one, in
hexadecimal. -/
def ofGaps (text : String) : CharSet := ⟨(go 0 ((rowWords text).map hexValue)).toArray⟩
where
  go (start : Nat) : List Nat → List CodeRange
    | gap :: len :: rest =>
      ⟨start + gap, start + gap + len⟩ :: go (start + gap + len + 1) rest
    | _ => []

end CharSet

end RegexGateway
