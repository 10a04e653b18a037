import RegexGateway.Text.Span

namespace RegexGateway

namespace Text

def byteLength : List Char → Nat
  | [] => 0
  | c :: rest => c.utf8Size + byteLength rest

def byteOffset : List Char → Nat → Nat
  | c :: rest, index + 1 => c.utf8Size + byteOffset rest index
  | _, _ => 0

/-- The number of characters that start before a byte offset. One inside of a character stands for
the end of that character. -/
def charIndex : List Char → Nat → Nat
  | [], _ => 0
  | c :: rest, n => if n = 0 then 0 else charIndex rest (n - c.utf8Size) + 1

def byteOffsets (start : Nat) : List Char → List Nat
  | [] => [start]
  | c :: rest => start :: byteOffsets (start + c.utf8Size) rest

/-- For each byte offset the number of characters that start before it, where `count` start before
the text. -/
def charCounts (count : Nat) : List Char → List Nat
  | [] => [count]
  | c :: rest =>
    count :: List.replicate (c.utf8Size - 1) (count + 1) ++ charCounts (count + 1) rest

theorem getElem?_byteOffsets (start : Nat) (text : List Char) (i : Nat) (h : i ≤ text.length) :
    (byteOffsets start text)[i]? = some (start + byteOffset text i) := by
  induction text generalizing start i with
  | nil => simp_all [byteOffsets, byteOffset]
  | cons c rest ih =>
    cases i with
    | zero => simp [byteOffsets, byteOffset]
    | succ i =>
      have := ih (start + c.utf8Size) i (by simpa using h)
      simp [byteOffsets, byteOffset, this, Nat.add_assoc]

theorem getElem?_charCounts (count : Nat) (text : List Char) (n : Nat) (h : n ≤ byteLength text) :
    (charCounts count text)[n]? = some (count + charIndex text n) := by
  induction text generalizing count n with
  | nil => simp_all [charCounts, charIndex, byteLength]
  | cons c rest ih =>
    cases n with
    | zero => simp [charCounts, charIndex]
    | succ n =>
      have size := c.utf8Size_pos
      simp only [charCounts, charIndex, byteLength] at h ⊢
      by_cases inside : n < c.utf8Size - 1
      · have zero : n + 1 - c.utf8Size = 0 := by omega
        have first : charIndex rest 0 = 0 := by cases rest <;> simp [charIndex]
        simp [List.getElem?_append, inside, zero, first]
      · have rest_index : n - (c.utf8Size - 1) = n + 1 - c.utf8Size := by omega
        have := ih (count + 1) (n + 1 - c.utf8Size) (by omega)
        simp [List.getElem?_append, inside, rest_index, this]
        omega

def isBoundary (text : List Char) (byte : Nat) : Bool :=
  byteOffset text (charIndex text byte) = byte

def takeBytes (text : List Char) (n : Nat) : List Char := text.take (charIndex text n)

def dropBytes (text : List Char) (n : Nat) : List Char := text.drop (charIndex text n)

def slice (text : List Char) (span : Span) : List Char :=
  (dropBytes text span.start).take (charIndex text span.stop - charIndex text span.start)

end Text

/-- A stretch that a text can be cut at: it does not run backwards, and lies between characters. -/
structure Span.Cuts (s : Span) (text : List Char) : Prop where
  start_le_stop : s.start ≤ s.stop
  start_boundary : Text.isBoundary text s.start
  stop_boundary : Text.isBoundary text s.stop

instance (s : Span) (text : List Char) : Decidable (s.Cuts text) :=
  decidable_of_iff (s.start ≤ s.stop ∧ Text.isBoundary text s.start ∧ Text.isBoundary text s.stop)
    ⟨fun ⟨hle, hstart, hstop⟩ => ⟨hle, hstart, hstop⟩,
      fun ⟨hle, hstart, hstop⟩ => ⟨hle, hstart, hstop⟩⟩

end RegexGateway
