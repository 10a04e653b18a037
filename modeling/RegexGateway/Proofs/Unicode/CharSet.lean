import Mathlib.Data.List.Sort
import RegexGateway.Unicode.Legible

namespace RegexGateway

theorem CodeRange.contains_iff {r : CodeRange} {n : Nat} :
    r.contains n ↔ r.first ≤ n ∧ n ≤ r.last := by
  simp [contains]

namespace CharSet

variable {s t : CharSet} {r : CodeRange} {rs : List CodeRange} {n : Nat}

/-- One of the ranges holds a code point. -/
def Covers (rs : List CodeRange) (n : Nat) : Prop := ∃ r ∈ rs, r.contains n

theorem covers_cons : Covers (r :: rs) n ↔ r.contains n ∨ Covers rs n := by simp [Covers]

structure Ordered (rs : List CodeRange) : Prop where
  nonempty : ∀ r ∈ rs, r.first ≤ r.last
  ordered : rs.Pairwise fun a b => a.first ≤ b.first

/-- Ranges with members, each of them beyond the ones before. -/
structure Increasing (rs : List CodeRange) : Prop where
  nonempty : ∀ r ∈ rs, r.first ≤ r.last
  apart : rs.Pairwise fun a b => a.last < b.first

theorem Increasing.cons (hr : r.first ≤ r.last) (hrest : ∀ q ∈ rs, r.last < q.first)
    (h : Increasing rs) : Increasing (r :: rs) :=
  ⟨List.forall_mem_cons.2 ⟨hr, h.nonempty⟩, List.pairwise_cons.2 ⟨hrest, h.apart⟩⟩

theorem Ordered.tail (h : Ordered (r :: rs)) : Ordered rs :=
  ⟨(List.forall_mem_cons.1 h.nonempty).2, (List.pairwise_cons.1 h.ordered).2⟩

theorem Ordered.merge {q : CodeRange} (h : Ordered (r :: q :: rs)) :
    Ordered (⟨r.first, max r.last q.last⟩ :: rs) := by
  obtain ⟨hr, hrest⟩ := List.forall_mem_cons.1 h.nonempty
  obtain ⟨hfirst, -⟩ := List.pairwise_cons.1 h.ordered
  constructor
  · exact List.forall_mem_cons.2
      ⟨Nat.le_trans hr (Nat.le_max_left ..), (List.forall_mem_cons.1 hrest).2⟩
  · exact List.pairwise_cons.2 ⟨(List.forall_mem_cons.1 hfirst).2, h.tail.tail.ordered⟩

theorem increasing_go (h : Ordered (r :: rs)) :
    Increasing (join.go r rs) ∧ ∀ p ∈ join.go r rs, r.first ≤ p.first := by
  have hr : r.first ≤ r.last := h.nonempty r List.mem_cons_self
  fun_induction join.go r rs with
  | case1 r =>
    refine ⟨⟨by simpa using hr, List.pairwise_singleton ..⟩, ?_⟩
    simp
  | case2 r q qs hnear ih => exact ih h.merge (h.merge.nonempty _ List.mem_cons_self)
  | case3 r q qs hfar ih =>
    obtain ⟨hincreasing, hbeyond⟩ := ih h.tail (h.tail.nonempty q List.mem_cons_self)
    have hrest (p : CodeRange) (hp : p ∈ join.go q qs) : r.last < p.first := by
      have hq := hbeyond p hp
      omega
    constructor
    · exact .cons hr hrest hincreasing
    · refine List.forall_mem_cons.2 ⟨Nat.le_refl _, fun p hp => ?_⟩
      exact Nat.le_trans hr (Nat.le_of_lt (hrest p hp))

theorem covers_go (h : Ordered (r :: rs)) : Covers (join.go r rs) n ↔ Covers (r :: rs) n := by
  fun_induction join.go r rs with
  | case1 r => rfl
  | case2 r q qs hnear ih =>
    have hfirst : r.first ≤ q.first := (List.pairwise_cons.1 h.ordered).1 q List.mem_cons_self
    have hmerged : (CodeRange.mk r.first (max r.last q.last)).contains n ↔
        r.contains n ∨ q.contains n := by
      simp only [CodeRange.contains_iff]
      omega
    rw [ih h.merge, covers_cons, hmerged, covers_cons, covers_cons, or_assoc]
  | case3 r q qs hfar ih =>
    have hrest : r.contains n ∨ Covers (join.go q qs) n ↔ r.contains n ∨ Covers (q :: qs) n :=
      or_congr_right (ih h.tail)
    exact covers_cons.trans (hrest.trans covers_cons.symm)

theorem ordered_mergeSort (rs : List CodeRange) :
    Ordered ((rs.filter fun r => r.first ≤ r.last).mergeSort fun a b => a.first ≤ b.first) := by
  constructor
  · intro r hr
    simpa using (List.mem_filter.1 (List.mem_mergeSort.1 hr)).2
  · refine (List.pairwise_mergeSort ?_ ?_ _).imp of_decide_eq_true
    · intro a b c hab hbc
      exact decide_eq_true (Nat.le_trans (of_decide_eq_true hab) (of_decide_eq_true hbc))
    · intro a b
      simpa using Nat.le_total a.first b.first

theorem increasing_ofRanges (rs : List CodeRange) : Increasing (ofRanges rs).ranges.toList := by
  have hordered := ordered_mergeSort rs
  rw [ofRanges]
  cases hsorted : (rs.filter fun r => r.first ≤ r.last).mergeSort fun a b => a.first ≤ b.first with
  | nil => exact ⟨nofun, .nil⟩
  | cons r qs => exact (increasing_go (hsorted ▸ hordered)).1

theorem covers_ofRanges : Covers (ofRanges rs).ranges.toList n ↔ Covers rs n := by
  have hordered := ordered_mergeSort rs
  have hjoin : Covers (ofRanges rs).ranges.toList n ↔
      Covers ((rs.filter fun r => r.first ≤ r.last).mergeSort fun a b => a.first ≤ b.first) n := by
    rw [ofRanges]
    cases hsorted : (rs.filter fun r => r.first ≤ r.last).mergeSort fun a b =>
      a.first ≤ b.first with
    | nil => rfl
    | cons r qs => exact covers_go (hsorted ▸ hordered)
  rw [hjoin]
  constructor
  · rintro ⟨r, hr, hn⟩
    exact ⟨r, (List.mem_filter.1 (List.mem_mergeSort.1 hr)).1, hn⟩
  · rintro ⟨r, hr, hn⟩
    have hle := CodeRange.contains_iff.1 hn
    refine ⟨r, List.mem_mergeSort.2 (List.mem_filter.2 ⟨hr, ?_⟩), hn⟩
    exact decide_eq_true (Nat.le_trans hle.1 hle.2)

theorem Increasing.mono (h : Increasing rs) {i j : Nat} (hij : i ≤ j) (hj : j < rs.length) :
    rs[i].first ≤ rs[j].first ∧ rs[i].last ≤ rs[j].last := by
  rcases Nat.eq_or_lt_of_le hij with rfl | hlt
  · exact ⟨Nat.le_refl _, Nat.le_refl _⟩
  · have hapart := List.pairwise_iff_getElem.1 h.apart i j (by omega) hj hlt
    have hi := h.nonempty rs[i] (List.getElem_mem _)
    have hj' := h.nonempty rs[j] (List.getElem_mem _)
    omega

/-- Of increasing ranges, the search drops none that could hold the code point. -/
theorem containsCode_go_iff (h : Increasing s.ranges.toList) {lo hi : Nat}
    (hhi : hi ≤ s.ranges.size) :
    containsCode.go s n lo hi ↔
      ∃ i r, s.ranges[i]? = some r ∧ lo ≤ i ∧ i < hi ∧ r.contains n := by
  have hmono {i j : Nat} {p q : CodeRange} (hp : s.ranges[i]? = some p)
      (hq : s.ranges[j]? = some q) (hij : i ≤ j) : p.first ≤ q.first ∧ p.last ≤ q.last := by
    obtain ⟨hi, rfl⟩ := Array.getElem?_eq_some_iff.1 hp
    obtain ⟨hj, rfl⟩ := Array.getElem?_eq_some_iff.1 hq
    have hle := h.mono hij (by simpa using hj)
    simp only [Array.getElem_toList] at hle
    exact hle
  fun_induction containsCode.go s n lo hi with
  | case1 lo hi hlt mid hnone =>
    have hmid : s.ranges.size ≤ mid := Array.getElem?_eq_none_iff.1 hnone
    omega
  | case2 lo hi hlt mid r hr hless ih =>
    refine (ih (by omega)).trans ?_
    constructor
    · rintro ⟨i, p, hp, hlo, hi', hn⟩
      exact ⟨i, p, hp, hlo, by omega, hn⟩
    · -- A range from the middle on starts behind the code point.
      rintro ⟨i, p, hp, hlo, hi', hn⟩
      refine ⟨i, p, hp, hlo, Nat.lt_of_not_le fun hle => ?_, hn⟩
      have hfirst := (hmono hr hp hle).1
      have hcontained := (CodeRange.contains_iff.1 hn).1
      omega
  | case3 lo hi hlt mid r hr hless hpast ih =>
    refine (ih hhi).trans ?_
    constructor
    · rintro ⟨i, p, hp, hlo, hi', hn⟩
      exact ⟨i, p, hp, by omega, hi', hn⟩
    · -- A range up to the middle ends before it.
      rintro ⟨i, p, hp, hlo, hi', hn⟩
      refine ⟨i, p, hp, Nat.lt_of_not_le fun hle => ?_, hi', hn⟩
      have hlast := (hmono hp hr hle).2
      have hcontained := (CodeRange.contains_iff.1 hn).2
      omega
  | case4 lo hi hlt mid r hr hless hpast =>
    refine iff_of_true rfl ⟨mid, r, hr, by omega, by omega, CodeRange.contains_iff.2 ?_⟩
    exact ⟨Nat.not_lt.1 hless, Nat.not_lt.1 hpast⟩
  | case5 lo hi hle =>
    refine iff_of_false nofun ?_
    rintro ⟨i, p, -, hlo, hi', -⟩
    omega

theorem containsCode_iff (h : Increasing s.ranges.toList) :
    s.containsCode n ↔ Covers s.ranges.toList n := by
  rw [containsCode, containsCode_go_iff h (Nat.le_refl _)]
  constructor
  · rintro ⟨i, r, hr, -, -, hn⟩
    exact ⟨r, Array.mem_toList_iff.2 (Array.mem_of_getElem? hr), hn⟩
  · rintro ⟨r, hr, hn⟩
    obtain ⟨i, hi, hget⟩ := Array.mem_iff_getElem.1 (Array.mem_toList_iff.1 hr)
    exact ⟨i, r, Array.getElem?_eq_some_iff.2 ⟨hi, hget⟩, Nat.zero_le i, hi, hn⟩

theorem containsCode_union :
    (s.union t).containsCode n ↔ Covers s.ranges.toList n ∨ Covers t.ranges.toList n := by
  rw [union, containsCode_iff (increasing_ofRanges _), covers_ofRanges]
  simp [Covers, or_and_right, exists_or]

end CharSet

end RegexGateway
