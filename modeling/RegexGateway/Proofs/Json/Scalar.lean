import RegexGateway.Json.Decode

namespace RegexGateway

namespace Json

theorem hexValue?_hexDigit : ∀ n < 16, hexValue? (hexDigit n) = some n := by decide

theorem readHex_control (c : Char) (rest : List Char) (h : c.toNat < 32) :
    readHex ('0' :: '0' :: hexDigit (c.toNat / 16) :: hexDigit (c.toNat % 16) :: rest) =
      .ok (c.toNat, rest) := by
  have hhi := hexValue?_hexDigit (c.toNat / 16) (by omega)
  have hlo := hexValue?_hexDigit (c.toNat % 16) (by omega)
  have hzero : hexValue? '0' = some 0 := rfl
  have hsum : c.toNat / 16 * 16 + c.toNat % 16 = c.toNat := by omega
  simp only [readHex, hzero, hhi, hlo, Nat.zero_mul, Nat.zero_add, hsum]

theorem readUnicode_control (c : Char) (rest : List Char) (h : c.toNat < 32) :
    readUnicode ('0' :: '0' :: hexDigit (c.toNat / 16) :: hexDigit (c.toNat % 16) :: rest) =
      .ok (c, rest) := by
  have htrailing : isTrailing c.toNat = false := by simp [isTrailing]; omega
  have hleading : isLeading c.toNat = false := by simp [isLeading]; omega
  simp [readUnicode, readHex_control c rest h, htrailing, hleading, Char.ofNat_toNat, bind,
    Except.bind, pure, Except.pure]

theorem escapeChar_cases (c : Char) :
    (escapeChar c = [c] ∧ c ≠ '"' ∧ c ≠ '\\' ∧ 32 ≤ c.toNat) ∨
      (∃ e, escapeChar c = ['\\', e] ∧ e ≠ 'u' ∧ simpleEscapes.lookup e = some c) ∨
      escapeChar c =
          ['\\', 'u', '0', '0', hexDigit (c.toNat / 16), hexDigit (c.toNat % 16)] ∧
        c.toNat < 32 := by
  unfold escapeChar
  split
  · exact .inr (.inl ⟨'"', rfl, by decide, rfl⟩)
  · exact .inr (.inl ⟨'\\', rfl, by decide, rfl⟩)
  · exact .inr (.inl ⟨'b', rfl, by decide, rfl⟩)
  · exact .inr (.inl ⟨'f', rfl, by decide, rfl⟩)
  · exact .inr (.inl ⟨'n', rfl, by decide, rfl⟩)
  · exact .inr (.inl ⟨'r', rfl, by decide, rfl⟩)
  · exact .inr (.inl ⟨'t', rfl, by decide, rfl⟩)
  · rename_i hquote hslash _ _ _ _ _
    split
    · rename_i h
      exact .inr (.inr ⟨rfl, h⟩)
    · rename_i h
      exact .inl ⟨rfl, hquote, hslash, by omega⟩

theorem escapeChar_ne_nil (c : Char) : escapeChar c ≠ [] := by
  rcases escapeChar_cases c with ⟨h, -⟩ | ⟨e, h, -⟩ | ⟨h, -⟩ <;> simp [h]

theorem length_le_escape (cs : List Char) : cs.length ≤ (escape cs).length := by
  induction cs with
  | nil => simp
  | cons c cs ih =>
    have h := List.length_pos_iff.2 (escapeChar_ne_nil c)
    simp only [escape, List.flatMap_cons, List.length_append, List.length_cons] at ih ⊢
    omega

theorem readString_escapeChar {fuel : Nat} {text cs rest : List Char} (c : Char)
    (h : readString fuel text = .ok (cs, rest)) :
    readString (fuel + 1) (escapeChar c ++ text) = .ok (c :: cs, rest) := by
  rcases escapeChar_cases c with ⟨he, hquote, hslash, hc⟩ | ⟨e, he, hu, hc⟩ | ⟨he, hc⟩
  · have hc' : ¬ c.toNat < 32 := by omega
    simp [he, readString, hslash, hc', h, bind, Except.bind, pure, Except.pure]
  · simp [he, readString, hc, h, bind, Except.bind, pure, Except.pure]
  · simp [he, readString, readUnicode_control c text hc, h, bind, Except.bind, pure, Except.pure]

theorem skipString_escapeChar {fuel : Nat} {text rest : List Char} (c : Char)
    (h : skipString fuel text = .ok rest) :
    skipString (fuel + 1) (escapeChar c ++ text) = .ok rest := by
  rcases escapeChar_cases c with ⟨he, hquote, hslash, hc⟩ | ⟨e, he, hu, hc⟩ | ⟨he, hc⟩
  · have hc' : ¬ c.toNat < 32 := by omega
    simp [he, skipString, hslash, hc', h]
  · simp [he, skipString, hc, h]
  · simp [he, skipString, readHex_control c text hc, h, bind, Except.bind]

theorem readString_escape (cs rest : List Char) {fuel : Nat} (h : cs.length < fuel) :
    readString fuel (escape cs ++ '"' :: rest) = .ok (cs, rest) := by
  induction cs generalizing fuel with
  | nil =>
    obtain ⟨fuel, rfl⟩ := Nat.exists_eq_add_of_lt h
    simp [escape, readString]
  | cons c cs ih =>
    cases fuel with
    | zero => simp at h
    | succ fuel =>
      have hcs : readString fuel (escape cs ++ '"' :: rest) = .ok (cs, rest) :=
        ih (by simpa using h)
      simpa only [escape, List.flatMap_cons, List.append_assoc] using readString_escapeChar c hcs

theorem skipString_escape (cs rest : List Char) {fuel : Nat} (h : cs.length < fuel) :
    skipString fuel (escape cs ++ '"' :: rest) = .ok rest := by
  induction cs generalizing fuel with
  | nil =>
    obtain ⟨fuel, rfl⟩ := Nat.exists_eq_add_of_lt h
    simp [escape, skipString]
  | cons c cs ih =>
    cases fuel with
    | zero => simp at h
    | succ fuel =>
      have hcs : skipString fuel (escape cs ++ '"' :: rest) = .ok rest := ih (by simpa using h)
      simpa only [escape, List.flatMap_cons, List.append_assoc] using skipString_escapeChar c hcs

theorem scanString_quote (s : String) (rest : List Char) :
    scanString (escape s.toList ++ '"' :: rest) = .ok (.ok s, rest) := by
  have hfuel : s.toList.length < (escape s.toList ++ '"' :: rest).length + 1 := by
    have := length_le_escape s.toList
    simp only [List.length_append, List.length_cons]
    omega
  simp only [scanString, readString_escape _ rest hfuel, skipString_escape _ rest hfuel,
    Except.map, String.ofList_toList]

/-- What may stand behind a number: nothing that would make it longer. -/
def EndsNumber (rest : List Char) : Prop :=
  ∀ c ∈ rest.head?, c.isDigit = false ∧ c ≠ '.' ∧ c ≠ 'e' ∧ c ≠ 'E'

theorem takeWhile_isDigit_append {digits rest : List Char} (h : ∀ c ∈ digits, c.isDigit)
    (hrest : ∀ c ∈ rest.head?, c.isDigit = false) :
    (digits ++ rest).takeWhile Char.isDigit = digits := by
  rw [List.takeWhile_append_of_pos h]
  cases rest with
  | nil => simp
  | cons c rest => simp [hrest c rfl]

theorem scanDigits_append {digits : List Char} (rest : List Char) (hne : digits ≠ [])
    (h : ∀ c ∈ digits, c.isDigit) (hrest : ∀ c ∈ rest.head?, c.isDigit = false) :
    scanDigits (digits ++ rest) = .ok (digits, rest) := by
  simp [scanDigits, takeWhile_isDigit_append h hrest, hne]

namespace Numeral

def chars (t : Numeral) : List Char :=
  (if t.negative then ['-'] else []) ++ t.whole ++ t.fraction.elim [] ('.' :: ·)

/-- A numeral without an exponent. Only a zero starts with a zero. -/
structure Plain (t : Numeral) : Prop where
  whole_ne_nil : t.whole ≠ []
  whole_digits : ∀ c ∈ t.whole, c.isDigit
  whole_head : t.whole.head? = some '0' → t.whole.length = 1
  fraction_ne_nil : ∀ digits ∈ t.fraction, digits ≠ []
  fraction_digits : ∀ digits ∈ t.fraction, ∀ c ∈ digits, c.isDigit
  exponent_eq_none : t.exponent = none

end Numeral

theorem EndsNumber.not_isDigit {rest : List Char} (h : EndsNumber rest) :
    ∀ c ∈ rest.head?, c.isDigit = false := fun c hc => (h c hc).1

theorem scanNumeral_chars {t : Numeral} {rest : List Char} (h : t.Plain) (hrest : EndsNumber rest) :
    scanNumeral (t.chars ++ rest) = .ok (t, rest) := by
  obtain ⟨negative, whole, fraction, exponent⟩ := t
  obtain ⟨hne, hdigits, hhead, hfne, hfdigits, he⟩ := h
  simp only at hne hdigits hhead hfne hfdigits he
  subst he
  obtain ⟨w, ws, rfl⟩ := List.exists_cons_of_ne_nil hne
  have hsign : w ≠ '-' := by
    rintro rfl
    simpa using hdigits '-' (by simp)
  have hzero : w = '0' → ws = [] := by simpa using hhead
  cases fraction with
  | none =>
    have hscan := scanDigits_append rest hne hdigits hrest.not_isDigit
    cases rest with
    | nil =>
      simp only [List.append_nil] at hscan
      cases negative <;>
        simpa [scanNumeral, Numeral.chars, hsign, hscan, bind, Except.bind, pure, Except.pure]
    | cons c rest =>
      obtain ⟨-, hdot, he, hE⟩ := hrest c rfl
      simp only [List.cons_append] at hscan
      cases negative <;>
        simpa [scanNumeral, Numeral.chars, hsign, hscan, hdot, he, hE, bind, Except.bind, pure,
          Except.pure]
  | some digits =>
    have hscan := scanDigits_append ('.' :: (digits ++ rest)) hne hdigits (by simp)
    have hfraction :=
      scanDigits_append rest (hfne digits rfl) (hfdigits digits rfl) hrest.not_isDigit
    simp only [List.cons_append] at hscan
    cases rest with
    | nil =>
      simp only [List.append_nil] at hscan hfraction
      cases negative <;>
        simpa [scanNumeral, Numeral.chars, hsign, hscan, hfraction, bind, Except.bind, pure,
          Except.pure]
    | cons c rest =>
      obtain ⟨-, hdot, he, hE⟩ := hrest c rfl
      cases negative <;>
        simpa [scanNumeral, Numeral.chars, hsign, hscan, hfraction, he, hE, bind, Except.bind,
          pure, Except.pure]

namespace Numeral

def ofInt (n : Int) : Numeral := ⟨n < 0, Nat.toDigits 10 n.natAbs, none, none⟩

theorem head?_toDigits {n : Nat} (h : 0 < n) : (Nat.toDigits 10 n).head? ≠ some '0' := by
  induction n using Nat.strongRecOn with
  | ind n ih =>
    by_cases hn : n < 10
    · rw [Nat.toDigits_of_lt_base hn]
      have hdigit : ∀ d < 10, 0 < d → d.digitChar ≠ '0' := by decide
      simpa using hdigit n hn h
    · have hrest := ih (n / 10) (by omega) (by omega)
      obtain ⟨d, ds, hd⟩ := List.exists_cons_of_ne_nil (Nat.toDigits_ne_nil (n := n / 10) (b := 10))
      rw [Nat.toDigits_of_base_le (by decide) (by omega)]
      rw [hd] at hrest ⊢
      exact hrest

theorem chars_ofInt (n : Int) : (ofInt n).chars = (toString n).toList := by
  rw [Int.toString_eq_repr, Int.repr_eq_if]
  split
  · rename_i h
    have habs : n.toNat = n.natAbs := by omega
    simp [chars, ofInt, Int.not_lt.2 h, habs]
  · rename_i h
    have habs : (-n).toNat = n.natAbs := by omega
    simp [chars, ofInt, Int.not_le.1 h, habs]

theorem plain_ofInt (n : Int) : (ofInt n).Plain where
  whole_ne_nil := Nat.toDigits_ne_nil
  whole_digits _ hc := Nat.isDigit_of_mem_toDigits (by decide) (by decide) hc
  whole_head h := by
    by_cases hn : 0 < n.natAbs
    · exact absurd h (head?_toDigits hn)
    · have hzero : n.natAbs = 0 := by omega
      simp [ofInt, hzero]
  fraction_ne_nil := by simp [ofInt]
  fraction_digits := by simp [ofInt]
  exponent_eq_none := rfl

theorem accumulate_eq (digits : List Char) (n count : Nat)
    (h : Nat.ofDigitChars 10 digits n < wordLimit) :
    accumulate n count digits = (Nat.ofDigitChars 10 digits n, count + digits.length, []) := by
  induction digits generalizing n count with
  | nil => simp [accumulate]
  | cons c rest ih =>
    have hcons : Nat.ofDigitChars 10 (c :: rest) n =
        Nat.ofDigitChars 10 rest (10 * n + digitValue c) := Nat.ofDigitChars_cons
    rw [hcons] at h ⊢
    have hnext : 10 * n + digitValue c < wordLimit := by
      rw [Nat.ofDigitChars_eq_ofDigitChars_zero] at h
      have hpow : 1 ≤ 10 ^ rest.length := Nat.one_le_pow _ _ (by decide)
      have hmul := Nat.mul_le_mul_right (10 * n + digitValue c) hpow
      omega
    rw [accumulate, if_pos hnext, ih _ _ h]
    simp [Nat.add_assoc, Nat.add_comm 1]

theorem value_ofInt {n : Int} (hlow : -0x8000000000000000 ≤ n)
    (hhigh : n < 0x10000000000000000) : (ofInt n).value = .ok (.int n) := by
  have hword : Nat.ofDigitChars 10 (Nat.toDigits 10 n.natAbs) 0 < wordLimit := by
    rw [Nat.ofDigitChars_ten_toDigits, wordLimit, UInt64.size]
    omega
  simp only [value, ofInt, accumulate_eq _ _ _ hword, Nat.ofDigitChars_ten_toDigits]
  by_cases hn : n < 0
  · have hzero : ¬ (n.natAbs = 0 ∨ 0x8000000000000000 < n.natAbs) := by omega
    have habs : -(n.natAbs : Int) = n := by omega
    simp only [hn, hzero, habs, decide_true, Option.isSome_none, List.isEmpty_nil,
      Bool.not_true, Bool.false_eq_true, or_self, if_false]
  · have habs : (n.natAbs : Int) = n := by omega
    simp [hn, habs]

end Numeral

end Json

end RegexGateway
