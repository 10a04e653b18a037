import RegexGateway.Text.Bytes

namespace RegexGateway

namespace Text

@[simp] theorem byteLength_nil : byteLength [] = 0 := rfl

@[simp] theorem byteLength_cons (c : Char) (text : List Char) :
    byteLength (c :: text) = c.utf8Size + byteLength text := rfl

@[simp] theorem byteLength_append (a b : List Char) :
    byteLength (a ++ b) = byteLength a + byteLength b := by
  induction a with
  | nil => simp
  | cons c a ih => simp [ih, Nat.add_assoc]

theorem byteLength_pos (c : Char) (text : List Char) : 0 < byteLength (c :: text) := by
  have := c.utf8Size_pos
  simp only [byteLength_cons]
  omega

theorem byteOffset_eq (text : List Char) (i : Nat) :
    byteOffset text i = byteLength (text.take i) := by
  induction text generalizing i with
  | nil => cases i <;> rfl
  | cons c rest ih =>
    cases i with
    | zero => rfl
    | succ i => simp [byteOffset, ih]

theorem charIndex_append (before after : List Char) :
    charIndex (before ++ after) (byteLength before) = before.length := by
  induction before with
  | nil => cases after <;> simp [charIndex]
  | cons c before ih =>
    have hpos := c.utf8Size_pos
    have hne : c.utf8Size + byteLength before ≠ 0 := by omega
    simp only [List.cons_append, byteLength_cons, charIndex, if_neg hne, Nat.add_sub_cancel_left,
      ih, List.length_cons]

theorem charIndex_le_length (text : List Char) (n : Nat) : charIndex text n ≤ text.length := by
  induction text generalizing n with
  | nil => simp [charIndex]
  | cons c rest ih =>
    simp only [charIndex, List.length_cons]
    split
    · exact Nat.zero_le _
    · exact Nat.succ_le_succ (ih _)

/-- A boundary is where a text can be split. -/
theorem isBoundary_iff {text : List Char} {n : Nat} :
    isBoundary text n ↔ ∃ before after, text = before ++ after ∧ byteLength before = n := by
  simp only [isBoundary, decide_eq_true_eq, byteOffset_eq]
  constructor
  · intro h
    exact ⟨text.take (charIndex text n), text.drop (charIndex text n), by simp, h⟩
  · rintro ⟨before, after, rfl, rfl⟩
    rw [charIndex_append, List.take_left]

theorem isBoundary_append (before after : List Char) :
    isBoundary (before ++ after) (byteLength before) :=
  isBoundary_iff.2 ⟨before, after, rfl, rfl⟩

theorem isBoundary_zero (text : List Char) : isBoundary text 0 := isBoundary_append [] text

theorem isBoundary_le {text : List Char} {n : Nat} (h : isBoundary text n) :
    n ≤ byteLength text := by
  obtain ⟨before, after, rfl, rfl⟩ := isBoundary_iff.1 h
  simp

theorem takeBytes_append (before after : List Char) :
    takeBytes (before ++ after) (byteLength before) = before := by
  rw [takeBytes, charIndex_append, List.take_left]

theorem dropBytes_append (before after : List Char) :
    dropBytes (before ++ after) (byteLength before) = after := by
  rw [dropBytes, charIndex_append, List.drop_left]

theorem slice_append (before middle after : List Char) :
    slice (before ++ middle ++ after) ⟨byteLength before, byteLength (before ++ middle)⟩ =
      middle := by
  have hstart : charIndex (before ++ middle ++ after) (byteLength before) = before.length := by
    rw [List.append_assoc, charIndex_append]
  have hstop := charIndex_append (before ++ middle) after
  rw [slice, dropBytes, hstart, hstop, List.append_assoc, List.drop_left, List.length_append,
    Nat.add_sub_cancel_left, List.take_left]

theorem exists_middle {before after before' after' : List Char}
    (h : before ++ after = before' ++ after') (hle : byteLength before ≤ byteLength before') :
    ∃ middle, before' = before ++ middle ∧ after = middle ++ after' := by
  rcases List.append_eq_append_iff.1 h with ⟨middle, rfl, rfl⟩ | ⟨middle, rfl, rfl⟩
  · exact ⟨middle, rfl, rfl⟩
  · cases middle with
    | nil => exact ⟨[], by simp, by simp⟩
    | cons c middle =>
      have hpos := byteLength_pos c middle
      simp only [byteLength_append] at hle
      omega

theorem isBoundary_pair {text : List Char} {m n : Nat} (hm : isBoundary text m)
    (hn : isBoundary text n) (hle : m ≤ n) :
    ∃ before middle after, text = before ++ middle ++ after ∧ byteLength before = m ∧
      byteLength (before ++ middle) = n := by
  obtain ⟨before, rest, rfl, rfl⟩ := isBoundary_iff.1 hm
  obtain ⟨before', after, heq, rfl⟩ := isBoundary_iff.1 hn
  obtain ⟨middle, rfl, rfl⟩ := exists_middle heq hle
  exact ⟨before, middle, after, by simp, rfl, rfl⟩

theorem dropBytes_of_le {text : List Char} {n : Nat} (h : byteLength text ≤ n) :
    dropBytes text n = [] := by
  rw [dropBytes, List.drop_eq_nil_iff]
  induction text generalizing n with
  | nil => simp
  | cons c rest ih =>
    have hpos := byteLength_pos c rest
    have hrest : byteLength rest ≤ n - c.utf8Size := by
      simp only [byteLength_cons] at h
      omega
    rw [charIndex, if_neg (by omega), List.length_cons]
    exact Nat.succ_le_succ (ih hrest)

theorem dropBytes_eq_slice_append {text : List Char} {m n : Nat} (hm : isBoundary text m)
    (hn : isBoundary text n) (hle : m ≤ n) :
    dropBytes text m = slice text ⟨m, n⟩ ++ dropBytes text n := by
  obtain ⟨before, middle, after, rfl, rfl, rfl⟩ := isBoundary_pair hm hn hle
  rw [slice_append, dropBytes_append, List.append_assoc, dropBytes_append]

theorem slice_self (text : List Char) (n : Nat) : slice text ⟨n, n⟩ = [] := by simp [slice]

theorem charIndex_eq_add {text : List Char} {m n : Nat} (hm : isBoundary text m)
    (hn : isBoundary text n) (hle : m ≤ n) :
    charIndex text n = charIndex text m + (slice text ⟨m, n⟩).length := by
  obtain ⟨before, middle, after, rfl, rfl, rfl⟩ := isBoundary_pair hm hn hle
  rw [slice_append, charIndex_append, List.append_assoc, charIndex_append, List.length_append]

theorem length_takeBytes (text : List Char) (n : Nat) :
    (takeBytes text n).length = charIndex text n := by
  rw [takeBytes, List.length_take, Nat.min_eq_left (charIndex_le_length text n)]

theorem isBoundary_byteOffset (text : List Char) (i : Nat) :
    isBoundary text (byteOffset text i) := by
  rw [byteOffset_eq]
  exact isBoundary_iff.2 ⟨text.take i, text.drop i, by simp, rfl⟩

theorem byteOffset_charIndex {text : List Char} {n : Nat} (h : isBoundary text n) :
    byteOffset text (charIndex text n) = n := by
  simpa only [isBoundary, decide_eq_true_eq] using h

theorem byteOffset_mono (text : List Char) {i j : Nat} (h : i ≤ j) :
    byteOffset text i ≤ byteOffset text j := by
  have hsplit : text.take j = text.take i ++ (text.drop i).take (j - i) := by
    rw [← List.take_add, Nat.add_sub_cancel' h]
  rw [byteOffset_eq, byteOffset_eq, hsplit, byteLength_append]
  exact Nat.le_add_right _ _

theorem byteOffset_succ {text : List Char} {i : Nat} {c : Char} (h : text[i]? = some c) :
    byteOffset text (i + 1) = byteOffset text i + c.utf8Size := by
  obtain ⟨hlt, rfl⟩ := List.getElem?_eq_some_iff.1 h
  rw [byteOffset_eq, byteOffset_eq, List.take_succ_eq_append_getElem hlt, byteLength_append,
    byteLength_cons, byteLength_nil, Nat.add_zero]

theorem length_byteOffsets (start : Nat) (text : List Char) :
    (byteOffsets start text).length = text.length + 1 := by
  induction text generalizing start with
  | nil => rfl
  | cons c rest ih => simp [byteOffsets, ih]

theorem length_charCounts (count : Nat) (text : List Char) :
    (charCounts count text).length = byteLength text + 1 := by
  induction text generalizing count with
  | nil => rfl
  | cons c rest ih =>
    have hpos := c.utf8Size_pos
    simp only [charCounts, List.cons_append, List.length_cons, List.length_append,
      List.length_replicate, ih, byteLength_cons]
    omega

end Text

end RegexGateway
