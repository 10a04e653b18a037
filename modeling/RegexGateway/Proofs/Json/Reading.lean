import RegexGateway.Proofs.Json.Scalar

namespace RegexGateway

namespace Json

mutual

/-- A value whose text reads back where so many levels of lists and objects may still be opened. -/
def Readable (levels : Nat) : Json → Prop
  | int n => -0x8000000000000000 ≤ n ∧ n < 0x10000000000000000
  | float x => ∃ t : Numeral, t.Plain ∧ scalarText (float x) = t.chars ∧ t.value = .ok (.float x)
  | arr items => 0 < levels ∧ ReadableItems (levels - 1) items
  | obj fields => 0 < levels ∧ ReadableFields (levels - 1) fields
  | null | bool _ | str _ => True

def ReadableItems (levels : Nat) : List Json → Prop
  | [] => True
  | j :: rest => Readable levels j ∧ ReadableItems levels rest

def ReadableFields (levels : Nat) : List (String × Json) → Prop
  | [] => True
  | (_, j) :: rest => Readable levels j ∧ ReadableFields levels rest

end

theorem readableItems_iff {levels : Nat} {items : List Json} :
    ReadableItems levels items ↔ ∀ j ∈ items, j.Readable levels := by
  induction items with
  | nil => simp [ReadableItems]
  | cons j rest ih => simp [ReadableItems, ih]

theorem readableFields_iff {levels : Nat} {fields : List (String × Json)} :
    ReadableFields levels fields ↔ ∀ f ∈ fields, f.2.Readable levels := by
  induction fields with
  | nil => simp [ReadableFields]
  | cons f rest ih => simp [ReadableFields, ih]

theorem skipBlank_of_head {c : Char} (rest : List Char) (h : isBlank c = false) :
    skipBlank (c :: rest) = c :: rest := by
  simp [skipBlank, h]

def StartsNumber (c : Char) : Prop := c = '-' ∨ c.isDigit

theorem StartsNumber.ne {c : Char} (h : StartsNumber c) {d : Char} (hd : d ≠ '-')
    (hdigit : d.isDigit = false) : c ≠ d := by
  rintro rfl
  rcases h with h | h
  · exact hd h
  · simp [hdigit] at h

theorem StartsNumber.isBlank {c : Char} (h : StartsNumber c) : isBlank c = false := by
  simp [Json.isBlank, h.ne (d := ' '), h.ne (d := '\n'), h.ne (d := '\t'), h.ne (d := '\r')]

theorem Numeral.Plain.startsNumber {t : Numeral} (h : t.Plain) :
    ∃ c cs, t.chars = c :: cs ∧ StartsNumber c := by
  obtain ⟨w, ws, hw⟩ := List.exists_cons_of_ne_nil h.whole_ne_nil
  have hdigit : w.isDigit := h.whole_digits w (by simp [hw])
  unfold chars
  cases t.negative with
  | false => exact ⟨w, _, by rw [hw]; rfl, .inr hdigit⟩
  | true => exact ⟨'-', _, rfl, .inl rfl⟩

theorem readNode_numeral {t : Numeral} {rest : List Char} (h : t.Plain) (hrest : EndsNumber rest)
    (fuel depth : Nat) : readNode (fuel + 1) depth (t.chars ++ rest) = (.number t.value, rest) := by
  have hscan := scanNumeral_chars h hrest
  obtain ⟨c, cs, hc, hstart⟩ := h.startsNumber
  simp only [hc, List.cons_append] at hscan ⊢
  have hn := hstart.ne (d := 'n') (by decide) rfl
  have ht := hstart.ne (d := 't') (by decide) rfl
  have hf := hstart.ne (d := 'f') (by decide) rfl
  have hquote := hstart.ne (d := '"') (by decide) rfl
  have hlist := hstart.ne (d := '[') (by decide) rfl
  have hobject := hstart.ne (d := '\x7b') (by decide) rfl
  rw [readNode, skipBlank_of_head _ hstart.isBlank]
  simp only [hscan]
  exact if_pos hstart

theorem joined_cons (c : Char) (text : List Char) (texts : List (List Char)) :
    joined [c] (text :: texts) = text ++ texts.flatMap (c :: ·) := by
  induction texts generalizing text with
  | nil => simp [joined, List.intercalate]
  | cons next rest ih =>
    have hnext := ih next
    simp only [joined, List.intercalate] at hnext ⊢
    simp [hnext]

theorem Readable.startsValue {j : Json} {levels : Nat} (h : j.Readable levels) :
    ∃ c cs, j.compactChars = c :: cs ∧ Json.isBlank c = false ∧ c ≠ ']' := by
  cases j with
  | null => exact ⟨'n', _, rfl, rfl, by decide⟩
  | bool b => cases b <;> exact ⟨_, _, rfl, rfl, by decide⟩
  | int n =>
    obtain ⟨c, cs, hc, hstart⟩ := (Numeral.plain_ofInt n).startsNumber
    exact ⟨c, cs, by rw [← hc, Numeral.chars_ofInt]; rfl, hstart.isBlank, hstart.ne (by decide) rfl⟩
  | float x =>
    obtain ⟨t, ht, htext, -⟩ := h
    obtain ⟨c, cs, hc, hstart⟩ := ht.startsNumber
    exact ⟨c, cs, by rw [← hc, ← htext]; rfl, hstart.isBlank, hstart.ne (by decide) rfl⟩
  | str s => exact ⟨'"', _, rfl, rfl, by decide⟩
  | arr items => exact ⟨'[', _, rfl, rfl, by decide⟩
  | obj fields => exact ⟨'\x7b', _, rfl, rfl, by decide⟩

theorem endsNumber_more (texts : List (List Char)) (closing : Char) (rest : List Char)
    (h : closing = ']' ∨ closing = '\x7d') :
    EndsNumber (texts.flatMap (',' :: ·) ++ closing :: rest) := by
  intro c hc
  cases texts with
  | nil =>
    obtain rfl : closing = c := by simpa using hc
    rcases h with rfl | rfl <;> decide
  | cons text texts =>
    obtain rfl : ',' = c := by simpa using hc
    decide

mutual

theorem readNode_compactChars (j : Json) {levels : Nat} (fuel depth : Nat) (rest : List Char)
    (h : j.Readable levels) (hdepth : depth + levels < depthLimit)
    (hfuel : 2 * j.compactChars.length ≤ fuel) (hrest : EndsNumber rest) :
    readNode fuel depth (j.compactChars ++ rest) = (j.node, rest) := by
  obtain ⟨fuel, rfl⟩ : ∃ n, fuel = n + 1 := by
    obtain ⟨c, cs, hc, -⟩ := h.startsValue
    simp only [hc, List.length_cons] at hfuel
    exact ⟨fuel - 1, by omega⟩
  cases j with
  | null => simp [compactChars, scalarText, readNode, skipBlank, isBlank, scanWord, node]
  | bool b =>
    cases b <;> simp [compactChars, scalarText, readNode, skipBlank, isBlank, scanWord, node]
  | int n =>
    have hchars : (int n).compactChars = (Numeral.ofInt n).chars := (Numeral.chars_ofInt n).symm
    rw [hchars, readNode_numeral (Numeral.plain_ofInt n) hrest, Numeral.value_ofInt h.1 h.2]
    rfl
  | float x =>
    obtain ⟨t, ht, htext, hvalue⟩ := h
    have hchars : (float x).compactChars = t.chars := htext
    rw [hchars, readNode_numeral ht hrest, hvalue]
    rfl
  | str s =>
    have hscan := scanString_quote s rest
    simp [compactChars, scalarText, quote, readNode, skipBlank, isBlank, hscan, node]
  | arr items =>
    obtain ⟨hlevels, hitems⟩ := h
    have hdeep : ¬ depthLimit ≤ depth + 1 := by omega
    have hopen : isBlank '[' = false := rfl
    have hlist := readItems_joined items fuel (depth + 1) rest hitems (by omega)
      (by simp [compactChars] at hfuel; omega)
    simp only [compactChars, List.cons_append, List.append_assoc, List.nil_append, readNode,
      skipBlank_of_head _ hopen, hlist, decide_eq_false hdeep, node]
  | obj fields =>
    obtain ⟨hlevels, hfields⟩ := h
    have hdeep : ¬ depthLimit ≤ depth + 1 := by omega
    have hopen : isBlank '\x7b' = false := rfl
    have hobject := readFields_joined fields fuel (depth + 1) rest hfields (by omega)
      (by simp [compactChars] at hfuel; omega)
    simp only [compactChars, List.cons_append, List.append_assoc, List.nil_append, readNode,
      skipBlank_of_head _ hopen, hobject, decide_eq_false hdeep, node]

theorem readItems_joined (items : List Json) {levels : Nat} (fuel depth : Nat)
    (rest : List Char) (h : ReadableItems levels items) (hdepth : depth + levels < depthLimit)
    (hfuel : 2 * (joined [','] (compactItems items)).length + 1 ≤ fuel) :
    readItems fuel depth true (joined [','] (compactItems items) ++ ']' :: rest) =
      (nodeItems items, rest) := by
  obtain ⟨fuel, rfl⟩ : ∃ n, fuel = n + 1 := ⟨fuel - 1, by omega⟩
  cases items with
  | nil => simp [compactItems, joined, readItems, skipBlank, isBlank, nodeItems]
  | cons j items =>
    obtain ⟨c, cs, hc, hblank, hclose⟩ := h.1.startsValue
    have hends := endsNumber_more (compactItems items) ']' rest (.inl rfl)
    simp only [compactItems, joined_cons, List.length_append] at hfuel
    have hlength : 0 < j.compactChars.length := by simp [hc]
    have hnode := readNode_compactChars j fuel depth _ h.1 hdepth (by omega) hends
    have hitems := readItems_more items fuel depth rest h.2 hdepth (by omega)
    simp only [hc, List.cons_append] at hnode
    simp only [compactItems, joined_cons, hc, readItems, List.cons_append, List.append_assoc,
      skipBlank_of_head _ hblank]
    simp [hnode, hitems, nodeItems]

theorem readItems_more (items : List Json) {levels : Nat} (fuel depth : Nat)
    (rest : List Char) (h : ReadableItems levels items) (hdepth : depth + levels < depthLimit)
    (hfuel : 2 * ((compactItems items).flatMap (',' :: ·)).length + 1 ≤ fuel) :
    readItems fuel depth false ((compactItems items).flatMap (',' :: ·) ++ ']' :: rest) =
      (nodeItems items, rest) := by
  obtain ⟨fuel, rfl⟩ : ∃ n, fuel = n + 1 := ⟨fuel - 1, by omega⟩
  cases items with
  | nil => simp [compactItems, readItems, skipBlank, isBlank, nodeItems]
  | cons j items =>
    obtain ⟨c, cs, hc, hblank, hclose⟩ := h.1.startsValue
    have hends := endsNumber_more (compactItems items) ']' rest (.inl rfl)
    simp only [compactItems, List.flatMap_cons, List.length_append, List.length_cons] at hfuel
    have hnode := readNode_compactChars j fuel depth _ h.1 hdepth (by omega) hends
    have hitems := readItems_more items fuel depth rest h.2 hdepth (by omega)
    simp only [hc, List.cons_append] at hnode
    have hcomma : isBlank ',' = false := rfl
    simp only [compactItems, List.flatMap_cons, hc, readItems, List.cons_append, List.append_assoc,
      skipBlank_of_head _ hcomma]
    simp [skipBlank_of_head _ hblank, hnode, hitems, nodeItems]

theorem readFields_joined (fields : List (String × Json)) {levels : Nat} (fuel depth : Nat)
    (rest : List Char) (h : ReadableFields levels fields) (hdepth : depth + levels < depthLimit)
    (hfuel : 2 * (joined [','] (compactFields fields)).length + 1 ≤ fuel) :
    readFields fuel depth true (joined [','] (compactFields fields) ++ '\x7d' :: rest) =
      (nodeFields fields, rest) := by
  obtain ⟨fuel, rfl⟩ : ∃ n, fuel = n + 1 := ⟨fuel - 1, by omega⟩
  match fields with
  | [] => simp [compactFields, joined, readFields, skipBlank, isBlank, nodeFields]
  | (k, j) :: fields =>
    have hends := endsNumber_more (compactFields fields) '\x7d' rest (.inr rfl)
    simp only [compactFields, joined_cons, List.length_append, List.length_cons] at hfuel
    have hnode := readNode_compactChars j fuel depth _ h.1 hdepth (by omega) hends
    have hfields := readFields_more fields fuel depth rest h.2 hdepth (by omega)
    have hkey := scanString_quote k
    have hcolon : isBlank ':' = false := rfl
    have hquote : isBlank '"' = false := rfl
    simp only [compactFields, joined_cons, readFields, quote, List.cons_append, List.nil_append,
      List.append_assoc, skipBlank_of_head _ hquote]
    simp [hkey, skipBlank_of_head _ hcolon, hnode, hfields, nodeFields]

theorem readFields_more (fields : List (String × Json)) {levels : Nat} (fuel depth : Nat)
    (rest : List Char) (h : ReadableFields levels fields) (hdepth : depth + levels < depthLimit)
    (hfuel : 2 * ((compactFields fields).flatMap (',' :: ·)).length + 1 ≤ fuel) :
    readFields fuel depth false ((compactFields fields).flatMap (',' :: ·) ++ '\x7d' :: rest) =
      (nodeFields fields, rest) := by
  obtain ⟨fuel, rfl⟩ : ∃ n, fuel = n + 1 := ⟨fuel - 1, by omega⟩
  match fields with
  | [] => simp [compactFields, readFields, skipBlank, isBlank, nodeFields]
  | (k, j) :: fields =>
    have hends := endsNumber_more (compactFields fields) '\x7d' rest (.inr rfl)
    simp only [compactFields, List.flatMap_cons, List.length_append, List.length_cons] at hfuel
    have hnode := readNode_compactChars j fuel depth _ h.1 hdepth (by omega) hends
    have hfields := readFields_more fields fuel depth rest h.2 hdepth (by omega)
    have hkey := scanString_quote k
    have hcomma : isBlank ',' = false := rfl
    have hcolon : isBlank ':' = false := rfl
    have hquote : isBlank '"' = false := rfl
    simp only [compactFields, List.flatMap_cons, readFields, quote, List.cons_append,
      List.nil_append, List.append_assoc, skipBlank_of_head _ hcomma]
    simp [skipBlank_of_head _ hquote, hkey, skipBlank_of_head _ hcolon, hnode, hfields, nodeFields]

end

/-- A value that is not too deep is what its own text holds, and nothing stands behind it. -/
theorem Document.ofText_compact {j : Json} {levels : Nat} (h : j.Readable levels)
    (hlevels : levels < depthLimit) : Document.ofText j.compact = ⟨j.node, false⟩ := by
  have hread := readNode_compactChars j (2 * j.compactChars.length + 2) 0 [] h (by omega)
    (by omega) (by simp [EndsNumber])
  simp only [List.append_nil] at hread
  simp [Document.ofText, compact, hread, skipBlank]

end Json

end RegexGateway
