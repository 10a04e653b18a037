import RegexGateway.Proofs.Unicode.CharSet

namespace RegexGateway

namespace CharSet

variable {r : CodeRange}

theorem le_first_of_mem_go {start low : Nat} {gaps : List Nat}
    (hgap : ∀ g ∈ gaps.head?, low ≤ start + g) (h : r ∈ ofGaps.go start gaps) :
    low ≤ r.first := by
  fun_induction ofGaps.go start gaps with
  | case1 start gap len rest ih =>
    have hlow : low ≤ start + gap := hgap gap rfl
    rcases List.mem_cons.1 h with rfl | h
    · exact hlow
    · exact ih (fun g _ => by omega) h
  | case2 => contradiction

theorem increasing_ofGaps (text : String) : Increasing (ofGaps text).ranges.toList := by
  have hgo (start : Nat) (gaps : List Nat) : Increasing (ofGaps.go start gaps) := by
    fun_induction ofGaps.go start gaps with
    | case1 start gap len rest ih =>
      refine ih.cons (Nat.le_add_right ..) fun q hq => ?_
      exact le_first_of_mem_go (fun g _ => Nat.le_add_right ..) hq
    | case2 => exact ⟨nofun, .nil⟩
  exact hgo 0 _

theorem ranges_ofGaps (text : String) :
    (ofGaps text).ranges.toList = ofGaps.go 0 ((rowWords text).map hexValue) := rfl

theorem rowWords_cons {word rest : List Char} (hword : word ≠ [])
    (hblank : word.any Char.isWhitespace = false) :
    rowWords (String.ofList (word ++ ' ' :: rest)) = word :: rowWords (String.ofList rest) := by
  have hsingle : word.splitOnP Char.isWhitespace = [word] := by
    apply List.splitOnP_eq_singleton
    simpa using hblank
  simp only [rowWords, String.toList_ofList]
  rw [List.splitOnP_append_cons word rest (by decide : Char.isWhitespace ' '), hsingle]
  simp [hword]

-- Each character of the literal is a level of the term that it stands for.
set_option maxRecDepth 20000 in
theorem alphabeticGaps_eq :
    ∃ rest, alphabeticGaps = String.ofList (['4', '1'] ++ ' ' :: rest) := ⟨_, rfl⟩

set_option maxRecDepth 20000 in
theorem numericGaps_eq :
    ∃ rest, numericGaps =
      String.ofList (['3', '0'] ++ ' ' :: (['9'] ++ ' ' :: (['7', '8'] ++ ' ' :: rest))) :=
  ⟨_, rfl⟩

theorem le_first_of_mem_alphabetic (h : r ∈ alphabetic.ranges.toList) : 'A'.toNat ≤ r.first := by
  obtain ⟨rest, hgaps⟩ := alphabeticGaps_eq
  rw [alphabetic, ranges_ofGaps, hgaps, rowWords_cons (by decide) (by decide), List.map_cons] at h
  refine le_first_of_mem_go ?_ h
  intro g hg
  obtain rfl := Option.some.inj hg
  decide

theorem numeric_ranges :
    ∃ rest, (ofGaps numericGaps).ranges.toList = ⟨'0'.toNat, '9'.toNat⟩ :: rest ∧
      ∀ r ∈ rest, 'A'.toNat ≤ r.first := by
  obtain ⟨rest, hgaps⟩ := numericGaps_eq
  refine ⟨ofGaps.go 0x3a (0x78 :: (rowWords (String.ofList rest)).map hexValue), ?_, ?_⟩
  · rw [ranges_ofGaps, hgaps, rowWords_cons (by decide) (by decide),
      rowWords_cons (by decide) (by decide), rowWords_cons (by decide) (by decide)]
    rfl
  · intro r hr
    refine le_first_of_mem_go ?_ hr
    intro g hg
    obtain rfl := Option.some.inj hg
    decide

theorem alphabetic_ge {c : Char} (h : alphabetic.contains c) : 'A'.toNat ≤ c.toNat := by
  obtain ⟨r, hr, hc⟩ := (containsCode_iff (increasing_ofGaps _)).1 h
  have hfirst := le_first_of_mem_alphabetic hr
  exact Nat.le_trans hfirst (CodeRange.contains_iff.1 hc).1

theorem alphabetic_not_isDigit {c : Char} (h : alphabetic.contains c) : c.isDigit = false := by
  have hletter := alphabetic_ge h
  cases hdigit : c.isDigit with
  | false => rfl
  | true =>
    have hnine := (Char.isDigit_iff_toNat.1 hdigit).2
    simp only [Char.reduceToNat] at hletter hnine
    omega

theorem alphanumeric_iff_isDigit {c : Char} (h : c.toNat < 'A'.toNat) :
    alphanumeric.contains c ↔ c.isDigit := by
  obtain ⟨rest, hnumeric, hrest⟩ := numeric_ranges
  have hbelow {rs : List CodeRange} (hrs : ∀ r ∈ rs, 'A'.toNat ≤ r.first) :
      ¬Covers rs c.toNat := by
    rintro ⟨r, hr, hc⟩
    have hfirst := hrs r hr
    have hcontained := (CodeRange.contains_iff.1 hc).1
    omega
  have hletters := hbelow fun r => le_first_of_mem_alphabetic
  rw [contains, alphanumeric, containsCode_union, hnumeric, covers_cons, CodeRange.contains_iff,
    Char.isDigit_iff_toNat]
  simp only [hletters, hbelow hrest, false_or, or_false]

end CharSet

end RegexGateway
