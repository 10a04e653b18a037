import RegexGateway.Proofs.Pattern.Compile
import RegexGateway.Proofs.Table.Refusal
import RegexGateway.Table.Builtin

namespace RegexGateway

namespace Capabilities

variable {caps : Capabilities} {pair taken : DelimiterPair}

/-- The allowed pairs that have a side in common with a pair. -/
def siding (caps : Capabilities) (pair : DelimiterPair) : List DelimiterPair :=
  caps.allowedPairs.filter fun p => p.opening = pair.opening ∨ p.closing = pair.closing

theorem mem_siding {other : DelimiterPair} :
    other ∈ caps.siding pair ↔ other ∈ caps.allowedPairs ∧
      (other.opening = pair.opening ∨ other.closing = pair.closing) := by
  simp [siding]

theorem validateDelimiters_eq_ok :
    caps.validateDelimiters pair = .ok taken ↔
      pair.opening ∈ caps.allowedDelimiters ∧
      (caps.siding pair = [taken] ∨
        (caps.siding pair).length ≠ 1 ∧ taken = .symmetric pair.opening) := by
  unfold validateDelimiters
  by_cases hallowed : pair.opening ∈ caps.allowedDelimiters
  · simp only [hallowed, not_true, if_false, true_and]
    split
    · rename_i p hone
      have hsiding : caps.siding pair = [p] := hone
      simp [hsiding]
    · rename_i hseveral
      have hlength : (caps.siding pair).length ≠ 1 := by
        intro hone
        obtain ⟨p, hp⟩ := List.length_eq_one_iff.1 hone
        exact hseveral p hp
      have hdifferent : caps.siding pair ≠ [taken] := hseveral taken
      simp [hlength, hdifferent, eq_comm]
  · simp [hallowed]

/-- The pairs that a table leaves as they are. -/
inductive Settled (caps : Capabilities) : DelimiterPair → Prop where
  | paired {pair : DelimiterPair} (hallowed : pair.opening ∈ caps.allowedDelimiters)
      (halone : caps.siding pair = [pair]) : Settled caps pair
  | symmetric {c : Char} (hallowed : c ∈ caps.allowedDelimiters)
      (hcount : (caps.siding (.symmetric c)).length ≠ 1) : Settled caps (.symmetric c)

theorem validateDelimiters_eq_self :
    caps.validateDelimiters pair = .ok pair ↔ caps.Settled pair := by
  rw [validateDelimiters_eq_ok]
  constructor
  · rintro ⟨hallowed, halone | ⟨hcount, hsymmetric⟩⟩
    · exact .paired hallowed halone
    · rw [hsymmetric] at hcount ⊢
      exact .symmetric hallowed hcount
  · intro h
    cases h with
    | paired hallowed halone => exact ⟨hallowed, .inl halone⟩
    | symmetric hallowed hcount => exact ⟨hallowed, .inr ⟨hcount, rfl⟩⟩

/-- A table in which every allowed pair can be told by each of its sides, and may open a pattern. -/
structure Distinguished (caps : Capabilities) : Prop where
  opening : ∀ p ∈ caps.allowedPairs, p.opening ∈ caps.allowedDelimiters
  sides : caps.allowedPairs.Pairwise fun p p' => p.opening ≠ p'.opening ∧ p.closing ≠ p'.closing

theorem Distinguished.siding_eq (h : caps.Distinguished) (hpair : pair ∈ caps.allowedPairs) :
    caps.siding pair = [pair] := by
  obtain ⟨before, after, hpairs⟩ := List.append_of_mem hpair
  have hsides := h.sides
  rw [hpairs, List.pairwise_append, List.pairwise_cons] at hsides
  obtain ⟨-, ⟨hafter, -⟩, hbefore⟩ := hsides
  have hnone_before : before.filter
      (fun p => p.opening = pair.opening ∨ p.closing = pair.closing) = [] := by
    simpa using fun p hp => hbefore p hp pair List.mem_cons_self
  have hnone_after : after.filter
      (fun p => p.opening = pair.opening ∨ p.closing = pair.closing) = [] := by
    simpa using fun p hp => ⟨(hafter p hp).1.symm, (hafter p hp).2.symm⟩
  simp only [siding, hpairs, List.filter_append, List.filter_cons, hnone_before, hnone_after,
    true_or, decide_true, if_true, List.nil_append]

theorem Distinguished.settles (h : caps.Distinguished)
    (htaken : caps.validateDelimiters pair = .ok taken) :
    ∃ again, caps.validateDelimiters taken = .ok again ∧ caps.Settled again := by
  obtain ⟨hallowed, honly | ⟨-, rfl⟩⟩ := validateDelimiters_eq_ok.1 htaken
  · have hmem : taken ∈ caps.siding pair := by simp [honly]
    have hpaired := Settled.paired (h.opening taken (mem_siding.1 hmem).1)
      (h.siding_eq (mem_siding.1 hmem).1)
    exact ⟨taken, validateDelimiters_eq_self.2 hpaired, hpaired⟩
  · by_cases hone : (caps.siding (.symmetric pair.opening)).length = 1
    · obtain ⟨again, hagain⟩ := List.length_eq_one_iff.1 hone
      have hmem : again ∈ caps.siding (.symmetric pair.opening) := by simp [hagain]
      exact ⟨again, validateDelimiters_eq_ok.2 ⟨hallowed, .inl hagain⟩,
        .paired (h.opening again (mem_siding.1 hmem).1) (h.siding_eq (mem_siding.1 hmem).1)⟩
    · have hsymmetric := Settled.symmetric hallowed hone
      exact ⟨_, validateDelimiters_eq_self.2 hsymmetric, hsymmetric⟩

end Capabilities

namespace Runner

variable {r : Runner} {record : PatternRecord} {p : CompiledPattern} {used : DelimiterPair}

theorem delimiters_of_default (hrecord : record.delimiters = none) :
    r.delimiters record =
      if r.capabilities.delimiterRequired then
        r.capabilities.validateDelimiters r.defaults.delimiters
      else .ok r.defaults.delimiters := by
  simp only [delimiters, hrecord, Option.getD_none]

theorem compile_delimiters_eq (h : r.compile record = .ok p) :
    r.delimiters record = .ok p.delimiters := by
  simp only [compile, bind_eq_ok, mapError_eq_ok] at h
  obtain ⟨modifiers, -, pair, hpair, matcher, -, template, -, hp⟩ := h
  obtain rfl := Except.ok.inj hp
  exact hpair

def opening (r : Runner) (record : PatternRecord) : Char :=
  (record.delimiters.getD r.defaults.delimiters).opening

theorem takes_delimiters :
    (∃ used, r.delimiters record = .ok used) ↔
      (r.capabilities.delimiterRequired →
        r.opening record ∈ r.capabilities.allowedDelimiters) := by
  rw [delimiters, opening, ← Capabilities.takes_iff, Capabilities.Takes]
  cases r.capabilities.delimiterRequired <;> simp

theorem delimiters_eq_error {e : ValidationError} :
    r.delimiters record = .error e ↔
      r.capabilities.delimiterRequired ∧ r.opening record ∉ r.capabilities.allowedDelimiters ∧
      e = .delimiter (r.opening record) r.capabilities.allowedDelimiters
        r.capabilities.defaults.delimiters := by
  constructor
  · intro h
    have hrefused : ¬ ∃ used, r.delimiters record = .ok used := by simp [h]
    obtain ⟨hrequired, hdenied⟩ := Classical.not_imp.1 (takes_delimiters.not.1 hrefused)
    rw [delimiters, if_pos hrequired] at h
    exact ⟨hrequired, hdenied, Capabilities.validateDelimiters_eq_error h⟩
  · rintro ⟨hrequired, hdenied, rfl⟩
    rw [delimiters, if_pos hrequired]
    exact if_pos hdenied

theorem takes_default (hrecord : record.delimiters = none) :
    (∃ used, r.delimiters record = .ok used) ↔
      (r.capabilities.delimiterRequired →
        r.defaults.delimiters.opening ∈ r.capabilities.allowedDelimiters) := by
  rw [takes_delimiters, opening, hrecord, Option.getD_none]

theorem keeps_default (hrecord : record.delimiters = none) :
    r.delimiters record = .ok r.defaults.delimiters ↔
      (r.capabilities.delimiterRequired →
        r.capabilities.Settled r.defaults.delimiters) := by
  rw [delimiters_of_default hrecord, ← Capabilities.validateDelimiters_eq_self]
  cases r.capabilities.delimiterRequired <;> simp

end Runner

theorem Defaults.withDelimiters_eq_ok {d d' : Defaults} {caps : Capabilities}
    {pair : DelimiterPair} :
    d.withDelimiters caps pair = .ok d' ↔
      ∃ taken, caps.validateDelimiters pair = .ok taken ∧ d' = { d with delimiters := taken } := by
  simp only [withDelimiters, bind_pure_comp, map_eq_ok]

namespace Capabilities

/-- What a table makes of a pair it accepts again if it allows the opening delimiter, and it leaves
it as it is if it is settled. So a default that was stored after a check serves the records that
come without delimiters, and is what their patterns report, under just these conditions where a
table requires delimiters, and always elsewhere. Where the pairs can be told by their sides, what a
second check yields stays as it is. -/
theorem delimiters_checked_again {caps : Capabilities} {pair taken : DelimiterPair}
    (htaken : caps.validateDelimiters pair = .ok taken) :
    ((∃ again, caps.validateDelimiters taken = .ok again) ↔
      taken.opening ∈ caps.allowedDelimiters) ∧
    (caps.validateDelimiters taken = .ok taken ↔ caps.Settled taken) ∧
    (caps.Distinguished →
      ∃ again, caps.validateDelimiters taken = .ok again ∧ caps.Settled again) ∧
    ∀ d dialect, ∃ d', Defaults.withDelimiters d caps pair = .ok d' ∧ d'.delimiters = taken ∧
      ∀ record : PatternRecord, record.delimiters = none →
        ((∃ used, Runner.delimiters ⟨caps, d', dialect⟩ record = .ok used) ↔
          (caps.delimiterRequired → taken.opening ∈ caps.allowedDelimiters)) ∧
        ∀ p, Runner.compile ⟨caps, d', dialect⟩ record = .ok p →
          (p.delimiters = taken ↔ (caps.delimiterRequired → caps.Settled taken)) := by
  refine ⟨takes_iff, validateDelimiters_eq_self, fun h => h.settles htaken, ?_⟩
  intro d dialect
  refine ⟨_, Defaults.withDelimiters_eq_ok.2 ⟨taken, htaken, rfl⟩, rfl, ?_⟩
  intro record hrecord
  refine ⟨Runner.takes_default hrecord, ?_⟩
  intro p hp
  have hkeeps := Runner.keeps_default (r := ⟨caps, { d with delimiters := taken }, dialect⟩) hrecord
  rw [Runner.compile_delimiters_eq hp] at hkeeps
  simpa using hkeeps

theorem delimiters_checked_again_words :
    words.validateDelimiters ⟨'/', 'x'⟩ = .ok (.symmetric '/') ∧
    words.validateDelimiters (.symmetric '/') = .ok (.symmetric '/') ∧
    ∃ p, Runner.compile ⟨words, ⟨.symmetric '/', ['g']⟩, .literal⟩
        ⟨1, ['a'], ['g'], none, ['b'], false⟩ = .ok p ∧ p.delimiters = .symmetric '/' := by
  have htaken : words.validateDelimiters ⟨'/', 'x'⟩ = .ok (.symmetric '/') := by rfl
  have hsettled : words.Settled (.symmetric '/') := .symmetric (by decide) (by decide)
  obtain ⟨-, hself, -, hstored⟩ := delimiters_checked_again htaken
  obtain ⟨d, hd, -, hrecords⟩ := hstored words.defaults .literal
  obtain rfl : ⟨.symmetric '/', ['g']⟩ = d := Except.ok.inj hd
  obtain ⟨-, hreports⟩ := hrecords ⟨1, ['a'], ['g'], none, ['b'], false⟩ rfl
  exact ⟨htaken, hself.2 hsettled, _, rfl, (hreports _ rfl).2 fun _ => hsettled⟩

example : ∃ caps, ofSpec .pcre = .ok caps ∧ caps.Distinguished :=
  ⟨_, rfl, by decide, by decide⟩

/-- A table takes a pair whose sides belong to two allowed ones for a symmetric one, and that for
the first of the two. -/
theorem ambiguous_delimiters_change :
    ∃ caps, ofSpec .pcre = .ok caps ∧
      ∃ taken, caps.validateDelimiters ⟨'(', '>'⟩ = .ok taken ∧
        caps.validateDelimiters taken ≠ .ok taken ∧
        ∃ d, Defaults.withDelimiters caps.defaults caps ⟨'(', '>'⟩ = .ok d ∧
          ∃ p, Runner.compile ⟨caps, d, .literal⟩ ⟨1, ['a'], [], none, [], false⟩ = .ok p ∧
            p.delimiters ≠ d.delimiters :=
  ⟨_, rfl, _, rfl, by decide, _, rfl, _, rfl, by decide⟩

end Capabilities

end RegexGateway
