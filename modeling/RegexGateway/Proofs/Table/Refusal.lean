import RegexGateway.Proofs.Dialect.Literal
import RegexGateway.Proofs.Table.Capabilities

namespace RegexGateway

theorem mem_distinct {c : Char} {cs : List Char} : c ∈ distinct cs ↔ c ∈ cs := by
  induction cs with
  | nil => exact Iff.rfl
  | cons d rest ih =>
    by_cases heq : c = d
    · simp [distinct, heq]
    · simp [distinct, heq, ih]

theorem nodup_distinct (cs : List Char) : (distinct cs).Nodup := by
  induction cs with
  | nil => exact .nil
  | cons c rest ih => exact List.nodup_cons.2 ⟨by simp, ih.filter _⟩

theorem distinct_eq_self {cs : List Char} (h : cs.Nodup) : distinct cs = cs := by
  induction cs with
  | nil => rfl
  | cons c rest ih =>
    obtain ⟨hc, hrest⟩ := List.nodup_cons.1 h
    have hkept : ∀ d ∈ rest, decide (d ≠ c) := by
      intro d hd
      exact decide_eq_true fun heq => hc (heq ▸ hd)
    rw [distinct, ih hrest, List.filter_eq_self.2 hkept]

theorem filter_distinct (keep : Char → Bool) (cs : List Char) :
    (distinct cs).filter keep = distinct (cs.filter keep) := by
  induction cs with
  | nil => rfl
  | cons c rest ih =>
    have hswap : ((distinct rest).filter (· ≠ c)).filter keep =
        (distinct (rest.filter keep)).filter (· ≠ c) := by
      rw [List.filter_comm, ih]
    by_cases hc : keep c
    · rw [distinct, List.filter_cons_of_pos hc, hswap, List.filter_cons_of_pos hc, distinct]
    · have hgone : c ∉ distinct (rest.filter keep) := by simp [mem_distinct, hc]
      have hkept : ∀ d ∈ distinct (rest.filter keep), decide (d ≠ c) :=
        fun d hd => decide_eq_true fun heq => hgone (heq ▸ hd)
      rw [distinct, List.filter_cons_of_neg hc, hswap, List.filter_cons_of_neg hc,
        List.filter_eq_self.2 hkept]

namespace FlagSet

theorem ofModifiers_congr {modifiers modifiers' : List Char}
    (h : ∀ c, c ∈ modifiers ↔ c ∈ modifiers') : ofModifiers modifiers = ofModifiers modifiers' := by
  simp only [ofModifiers, h]

theorem ofModifiers_distinct (modifiers : List Char) :
    ofModifiers (distinct modifiers) = ofModifiers modifiers :=
  ofModifiers_congr fun _ => mem_distinct

end FlagSet

namespace Capabilities

variable {caps : Capabilities}

theorem validateModifiers_eq_ok {raw cleaned : List Char} :
    caps.validateModifiers raw = .ok cleaned ↔
      (∀ c ∈ raw, c ∈ caps.allowedModifiers) ∧ cleaned = distinct raw := by
  by_cases hraw : ∀ c ∈ raw, c ∈ caps.allowedModifiers
  · have hinvalid : raw.filter (· ∉ caps.allowedModifiers) = [] := by simpa using hraw
    have hkept : raw.filter (· ∈ caps.allowedModifiers) = raw := by simpa using hraw
    simp only [validateModifiers, hinvalid, hkept, distinct, List.isEmpty_nil, if_true,
      Except.ok.injEq, eq_comm (a := cleaned)]
    exact ⟨fun h => ⟨hraw, h⟩, fun h => h.2⟩
  · obtain ⟨c, hc, hdenied⟩ : ∃ c ∈ raw, c ∉ caps.allowedModifiers := by simpa using hraw
    have hinvalid : (distinct (raw.filter (· ∉ caps.allowedModifiers))).isEmpty = false := by
      apply List.isEmpty_eq_false_iff_exists_mem.2
      exact ⟨c, mem_distinct.2 (by simp [hc, hdenied])⟩
    simp only [validateModifiers, hinvalid, Bool.false_eq_true, if_false]
    exact ⟨nofun, fun h => absurd h.1 hraw⟩

theorem validateModifiers_eq_error {raw : List Char} {e : ValidationError} :
    caps.validateModifiers raw = .error e ↔
      (∃ c ∈ raw, c ∉ caps.allowedModifiers) ∧
      e = .modifier caps.label (distinct (raw.filter (· ∉ caps.allowedModifiers)))
        caps.allowedModifiers (distinct (raw.filter (· ∈ caps.allowedModifiers))) := by
  have hinvalid : (distinct (raw.filter (· ∉ caps.allowedModifiers))).isEmpty = false ↔
      ∃ c ∈ raw, c ∉ caps.allowedModifiers := by
    simp only [List.isEmpty_eq_false_iff_exists_mem, mem_distinct, List.mem_filter,
      decide_eq_true_eq]
  rw [← hinvalid, validateModifiers]
  cases (distinct (raw.filter (· ∉ caps.allowedModifiers))).isEmpty <;> simp [eq_comm]

/-- What is left of modifiers without those that are refused is accepted as it is. -/
theorem validateModifiers_cleaned {raw : List Char} {e : ValidationError}
    (h : caps.validateModifiers raw = .error e) :
    ∃ invalid cleaned, e = .modifier caps.label invalid caps.allowedModifiers cleaned ∧
      caps.validateModifiers cleaned = .ok cleaned := by
  simp only [validateModifiers] at h
  split at h
  · contradiction
  · refine ⟨_, _, (Except.error.inj h).symm, ?_⟩
    apply validateModifiers_eq_ok.2
    constructor
    · intro c hc
      have hkept := mem_distinct.1 hc
      exact of_decide_eq_true (List.mem_filter.1 hkept).2
    · exact (distinct_eq_self (nodup_distinct _)).symm

/-- A table accepts delimiters. -/
def Takes (caps : Capabilities) (pair : DelimiterPair) : Prop :=
  ∃ taken, caps.validateDelimiters pair = .ok taken

theorem takes_iff {pair : DelimiterPair} :
    caps.Takes pair ↔ pair.opening ∈ caps.allowedDelimiters := by
  unfold Takes validateDelimiters
  by_cases hallowed : pair.opening ∈ caps.allowedDelimiters
  · simp only [hallowed, not_true, if_false, iff_true]
    split <;> exact ⟨_, rfl⟩
  · simp [hallowed]

theorem validateDelimiters_eq_error {pair : DelimiterPair} {e : ValidationError}
    (h : caps.validateDelimiters pair = .error e) :
    e = .delimiter pair.opening caps.allowedDelimiters caps.defaults.delimiters := by
  unfold validateDelimiters at h
  split at h
  · exact (Except.error.inj h).symm
  · split at h <;> contradiction

/-- Every refusal comes with a value. Modifiers are offered that are accepted unchanged. The
delimiters that are offered are accepted if the table allows the one that its default pair opens
with, as it does if patterns must have delimiters, and else they are refused in turn. -/
theorem refusals_offer {spec : EngineSpec} (h : ofSpec spec = .ok caps) :
    (∀ raw e, caps.validateModifiers raw = .error e →
      ∃ invalid cleaned, e = .modifier caps.label invalid caps.allowedModifiers cleaned ∧
        caps.validateModifiers cleaned = .ok cleaned) ∧
    (∀ pair e, caps.validateDelimiters pair = .error e →
      ∃ fallback, e = .delimiter pair.opening caps.allowedDelimiters fallback ∧
        (caps.Takes fallback ↔ spec.defaultDelimiters.opening ∈ spec.allowedDelimiters)) ∧
    (spec.delimiterRequired → spec.defaultDelimiters.opening ∈ spec.allowedDelimiters) := by
  obtain ⟨-, -, modifiers, -, hrequired, rfl⟩ := ofSpec_eq_ok.1 h
  refine ⟨fun raw e => validateModifiers_cleaned, ?_, ?_⟩
  · intro pair e hrefused
    exact ⟨spec.defaultDelimiters, validateDelimiters_eq_error hrefused, takes_iff⟩
  · intro hneeded
    exact takes_iff.1 (hrequired hneeded)

theorem refusals_offer_words :
    ofSpec .words = .ok words ∧
    (∃ fallback, words.validateDelimiters ⟨'#', '#'⟩ = .error (.delimiter '#' ['/', '('] fallback) ∧
      words.Takes fallback) ∧
    ∃ cleaned, words.validateModifiers ['g', 'x', 'g'] =
      .error (.modifier .modifiers ['x'] ['g'] cleaned) ∧
      words.validateModifiers cleaned = .ok cleaned := by
  obtain ⟨hmodifiers, hdelimiters, hrequired⟩ := refusals_offer ofSpec_words
  obtain ⟨fallback, heq, htakes⟩ := hdelimiters ⟨'#', '#'⟩ _ rfl
  obtain ⟨invalid, cleaned, heq', hcleaned⟩ := hmodifiers ['g', 'x', 'g'] _ rfl
  refine ⟨ofSpec_words, ⟨fallback, ?_, htakes.2 (hrequired rfl)⟩, cleaned, ?_, hcleaned⟩
  · exact congrArg Except.error heq
  · obtain ⟨-, rfl, -, rfl⟩ := ValidationError.modifier.inj heq'
    rfl

end Capabilities

def EngineSpec.undelimited : EngineSpec :=
  { EngineSpec.words with delimiterRequired := false, defaultDelimiters := .symmetric '#' }

/-- A table that needs no delimiters refuses the very pair that it offers. -/
theorem Capabilities.fallback_refused :
    ∃ caps, ofSpec .undelimited = .ok caps ∧ ∃ fallback,
      caps.validateDelimiters ⟨'a', 'b'⟩ = .error (.delimiter 'a' ['/', '('] fallback) ∧
      caps.validateDelimiters fallback = .error (.delimiter '#' ['/', '('] fallback) :=
  ⟨_, rfl, _, rfl, rfl⟩

end RegexGateway
