import RegexGateway.Proofs.Pattern.Slices

namespace RegexGateway

namespace Text

/-- A byte offset where a text can be split, with the number of characters before it. -/
def CharsBefore (text : List Char) (byte count : Nat) : Prop :=
  ∃ before after, text = before ++ after ∧ byteLength before = byte ∧ before.length = count

theorem charsBefore_iff {text : List Char} {byte count : Nat} :
    CharsBefore text byte count ↔ isBoundary text byte ∧ count = charIndex text byte := by
  constructor
  · rintro ⟨before, after, rfl, rfl, rfl⟩
    exact ⟨isBoundary_append before after, (charIndex_append before after).symm⟩
  · rintro ⟨hbyte, rfl⟩
    obtain ⟨before, after, rfl, rfl⟩ := isBoundary_iff.1 hbyte
    exact ⟨before, after, rfl, rfl, (charIndex_append before after).symm⟩

end Text

namespace CharCursor

/-- What a cursor answers to a row of byte offsets. It goes from each of them to the next. -/
def answers (cursor : CharCursor) (text : List Char) : List Nat → List Nat
  | [] => []
  | byte :: rest => (cursor.seek text byte).chars :: (cursor.seek text byte).answers text rest

def answers? (cursor : CharCursor) (text : List Char) : List Nat → Option (List Nat)
  | [] => some []
  | byte :: rest => do
    let cursor ← cursor.seek? text byte
    return cursor.chars :: (← cursor.answers? text rest)

def Accurate (cursor : CharCursor) (text : List Char) : Prop :=
  Text.CharsBefore text cursor.byte cursor.chars

variable {cursor : CharCursor} {text : List Char} {byte : Nat} {bytes : List Nat}

theorem accurate_start (text : List Char) : start.Accurate text := ⟨[], text, rfl, rfl, rfl⟩

theorem Accurate.seek (h : cursor.Accurate text) (hbyte : Text.isBoundary text byte) :
    (cursor.seek text byte).Accurate text := by
  obtain ⟨hcursor, hchars⟩ := Text.charsBefore_iff.1 h
  exact Text.charsBefore_iff.2 ⟨hbyte, seek_chars hcursor hchars hbyte⟩

theorem Accurate.seek?_eq (h : cursor.Accurate text) (hbyte : Text.isBoundary text byte) :
    cursor.seek? text byte = some (cursor.seek text byte) := by
  obtain ⟨hcursor, -⟩ := Text.charsBefore_iff.1 h
  exact CharCursor.seek?_eq hcursor hbyte

theorem Accurate.answers?_eq (h : cursor.Accurate text)
    (hbytes : ∀ byte ∈ bytes, Text.isBoundary text byte) :
    cursor.answers? text bytes = some (cursor.answers text bytes) := by
  induction bytes generalizing cursor with
  | nil => rfl
  | cons byte rest ih =>
    obtain ⟨hbyte, hrest⟩ := List.forall_mem_cons.1 hbytes
    have hanswers := ih (h.seek hbyte) hrest
    simp only [answers?, answers, h.seek?_eq hbyte, hanswers, Option.pure_def,
      Option.bind_eq_bind, Option.bind_some]

theorem Accurate.forall₂_answers (h : cursor.Accurate text)
    (hbytes : ∀ byte ∈ bytes, Text.isBoundary text byte) :
    List.Forall₂ (Text.CharsBefore text) bytes (cursor.answers text bytes) := by
  induction bytes generalizing cursor with
  | nil => exact .nil
  | cons byte rest ih =>
    obtain ⟨hbyte, hrest⟩ := List.forall_mem_cons.1 hbytes
    have hmoved := h.seek hbyte
    exact .cons hmoved (ih hmoved hrest)

end CharCursor

theorem Match.occurrences_position (names : List (Option String)) (text : List Char)
    (cursor : CharCursor) (found : List Match) :
    (occurrences names text cursor found).map (·.position) =
      cursor.answers text (found.map (·.span.start)) := by
  induction found generalizing cursor with
  | nil => rfl
  | cons m rest ih => simp only [occurrences, List.map_cons, CharCursor.answers, ih]

namespace CharCursor

/-- From the start of a text on, every row of offsets between characters is answered without a cut
inside of a character. Each answer is the number of characters before its offset, whether that lies
ahead of the one asked for last, behind it or at it. Matches that start at the offsets are shown at
these positions. -/
theorem answers_charsBefore (text : List Char) (bytes : List Nat)
    (hbytes : ∀ byte ∈ bytes, Text.isBoundary text byte) :
    start.answers? text bytes = some (start.answers text bytes) ∧
      List.Forall₂ (Text.CharsBefore text) bytes (start.answers text bytes) ∧
      ∀ (names : List (Option String)) (found : List Match),
        found.map (·.span.start) = bytes →
          (Match.occurrences names text start found).map (·.position) =
            start.answers text bytes := by
  have hstart := accurate_start text
  refine ⟨hstart.answers?_eq hbytes, hstart.forall₂_answers hbytes, ?_⟩
  rintro names found rfl
  exact Match.occurrences_position names text start found

theorem answers_charsBefore_backAndForth :
    (∀ byte ∈ [10, 3, 3, 0, 6, 1], Text.isBoundary ['a', 'é', '€', '𝄞'] byte) ∧
      start.answers? ['a', 'é', '€', '𝄞'] [10, 3, 3, 0, 6, 1] = some [4, 2, 2, 0, 3, 1] ∧
      List.Forall₂ (Text.CharsBefore ['a', 'é', '€', '𝄞']) [10, 3, 3, 0, 6, 1]
        [4, 2, 2, 0, 3, 1] ∧
      (Match.occurrences [] ['a', 'é', '€', '𝄞'] start
        ([10, 3, 3, 0, 6, 1].map fun byte => ⟨⟨byte, byte⟩, []⟩)).map (·.position) =
          [4, 2, 2, 0, 3, 1] := by
  have hbytes : ∀ byte ∈ [10, 3, 3, 0, 6, 1], Text.isBoundary ['a', 'é', '€', '𝄞'] byte := by
    decide
  obtain ⟨hanswers, hcounts, hpositions⟩ :=
    answers_charsBefore ['a', 'é', '€', '𝄞'] [10, 3, 3, 0, 6, 1] hbytes
  exact ⟨hbytes, hanswers, hcounts, hpositions [] _ rfl⟩

end CharCursor

end RegexGateway
