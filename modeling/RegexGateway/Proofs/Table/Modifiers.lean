import RegexGateway.Proofs.Table.Registry
import RegexGateway.Table.Builtin

namespace RegexGateway

theorem FirstOccurrences.unique {cs ds ds' : List Char} (h : FirstOccurrences cs ds)
    (h' : FirstOccurrences cs ds') : ds = ds' := by
  have hmem : ∀ c, c ∈ ds ↔ c ∈ ds' := fun c => (h.mem_iff c).trans (h'.mem_iff c).symm
  have hperm : ds.Perm ds' := (List.perm_ext_iff_of_nodup h.nodup h'.nodup).2 hmem
  apply hperm.eq_of_pairwise _ h.ordered h'.ordered
  intro c d _ _ hbefore hbehind
  exact absurd hbefore (Nat.lt_asymm hbehind)

theorem firstOccurrences_iff {cs ds : List Char} : FirstOccurrences cs ds ↔ ds = distinct cs := by
  constructor
  · intro h
    exact h.unique (firstOccurrences_distinct cs)
  · rintro rfl
    exact firstOccurrences_distinct cs

theorem distinct_append (cs ds : List Char) :
    distinct (cs ++ ds) = distinct cs ++ (distinct ds).filter (· ∉ cs) := by
  induction cs with
  | nil => simp [distinct]
  | cons c rest ih =>
    have hnew : ((distinct ds).filter (· ∉ rest)).filter (· ≠ c) =
        (distinct ds).filter (· ∉ c :: rest) := by
      rw [List.filter_filter]
      apply List.filter_congr
      intro d _
      simp
    rw [List.cons_append, distinct, distinct, ih, List.filter_append, hnew, List.cons_append]

def addNew (cs : List Char) (c : Char) : List Char := if c ∈ cs then cs else cs ++ [c]

theorem FirstOccurrences.addNew {cs ds : List Char} (h : FirstOccurrences cs ds) (c : Char) :
    FirstOccurrences (cs ++ [c]) (addNew ds c) := by
  obtain rfl := firstOccurrences_iff.1 h
  apply firstOccurrences_iff.2
  rw [distinct_append]
  by_cases hc : c ∈ cs <;> simp [RegexGateway.addNew, distinct, mem_distinct, hc]

namespace Capabilities

variable {caps : Capabilities} {raw raw' before cleaned cleaned' invalid : List Char}

/-- The modifiers that a table allows, and the others. -/
structure Splits (caps : Capabilities) (raw cleaned invalid : List Char) : Prop where
  allowed : FirstOccurrences (raw.filter (· ∈ caps.allowedModifiers)) cleaned
  denied : FirstOccurrences (raw.filter (· ∉ caps.allowedModifiers)) invalid

/-- Sorts one more modifier into the lists that those before it have left. -/
def sift (caps : Capabilities) (lists : List Char × List Char) (c : Char) :
    List Char × List Char :=
  if c ∈ caps.allowedModifiers then (addNew lists.1 c, lists.2) else (lists.1, addNew lists.2 c)

theorem Splits.sift (h : caps.Splits raw cleaned invalid) (c : Char) :
    caps.Splits (raw ++ [c]) (caps.sift (cleaned, invalid) c).1
      (caps.sift (cleaned, invalid) c).2 := by
  obtain ⟨hallowed, hdenied⟩ := h
  by_cases hc : c ∈ caps.allowedModifiers
  · constructor
    case allowed => simpa [Capabilities.sift, hc] using hallowed.addNew c
    case denied => simpa [Capabilities.sift, hc] using hdenied
  · constructor
    case allowed => simpa [Capabilities.sift, hc] using hallowed
    case denied => simpa [Capabilities.sift, hc] using hdenied.addNew c

theorem Splits.foldl_sift (h : caps.Splits before cleaned invalid) (raw : List Char) :
    caps.Splits (before ++ raw) (raw.foldl caps.sift (cleaned, invalid)).1
      (raw.foldl caps.sift (cleaned, invalid)).2 := by
  -- The modifiers that were sorted before grow at their end, as those that are left are taken.
  induction raw generalizing before cleaned invalid with
  | nil => simpa using h
  | cons c rest ih => simpa using ih (h.sift c)

theorem splits_nil (caps : Capabilities) : caps.Splits [] [] [] :=
  ⟨firstOccurrences_distinct [], firstOccurrences_distinct []⟩

theorem splits_foldl_sift (caps : Capabilities) (raw : List Char) :
    caps.Splits raw (raw.foldl caps.sift ([], [])).1 (raw.foldl caps.sift ([], [])).2 :=
  caps.splits_nil.foldl_sift raw

theorem foldl_sift_eq_iff :
    raw.foldl caps.sift ([], []) = (cleaned, invalid) ↔ caps.Splits raw cleaned invalid := by
  have hsplits := caps.splits_foldl_sift raw
  constructor
  · intro h
    rwa [h] at hsplits
  · intro h
    exact Prod.ext (hsplits.allowed.unique h.allowed) (hsplits.denied.unique h.denied)

theorem Splits.head?_denied (h : caps.Splits raw cleaned invalid) :
    invalid.head? = raw.find? (· ∉ caps.allowedModifiers) := by
  rw [firstOccurrences_iff.1 h.denied, ← List.head?_filter]
  cases raw.filter (· ∉ caps.allowedModifiers) <;> rfl

theorem Splits.denied_eq_nil (h : caps.Splits raw cleaned invalid) :
    invalid = [] ↔ ∀ c ∈ raw, c ∈ caps.allowedModifiers := by
  simp only [List.eq_nil_iff_forall_not_mem, h.denied.mem_iff, List.mem_filter, decide_eq_true_eq,
    not_and, not_not]

theorem Splits.validateModifiers_eq (h : caps.Splits raw cleaned invalid) :
    caps.validateModifiers raw =
      if invalid = [] then .ok cleaned
      else .error (.modifier caps.label invalid caps.allowedModifiers cleaned) := by
  rw [firstOccurrences_iff.1 h.allowed, firstOccurrences_iff.1 h.denied]
  simp only [validateModifiers, List.isEmpty_iff]

theorem validateModifiers_accepts :
    caps.validateModifiers raw = .ok cleaned ↔ caps.Splits raw cleaned [] := by
  constructor
  · intro h
    have hsplits := caps.splits_foldl_sift raw
    rw [hsplits.validateModifiers_eq] at h
    split at h
    · rename_i hnone
      rwa [hnone, Except.ok.inj h] at hsplits
    · contradiction
  · intro h
    rw [h.validateModifiers_eq, if_pos rfl]

theorem validateModifiers_refuses {e : ValidationError} :
    caps.validateModifiers raw = .error e ↔
      ∃ cleaned invalid, caps.Splits raw cleaned invalid ∧ invalid ≠ [] ∧
        e = .modifier caps.label invalid caps.allowedModifiers cleaned := by
  constructor
  · intro h
    have hsplits := caps.splits_foldl_sift raw
    rw [hsplits.validateModifiers_eq] at h
    split at h
    · contradiction
    · rename_i hsome
      exact ⟨_, _, hsplits, hsome, (Except.error.inj h).symm⟩
  · rintro ⟨cleaned, invalid, hsplits, hsome, rfl⟩
    rw [hsplits.validateModifiers_eq, if_neg hsome]

theorem validateModifiers_again (h : caps.validateModifiers raw = .ok cleaned) :
    caps.validateModifiers cleaned = .ok cleaned := by
  obtain ⟨hallowed, rfl⟩ := validateModifiers_eq_ok.1 h
  apply validateModifiers_eq_ok.2
  constructor
  · intro c hc
    exact hallowed c (mem_distinct.1 hc)
  · exact (distinct_eq_self (nodup_distinct raw)).symm

theorem validateModifiers_append (h : caps.validateModifiers raw = .ok cleaned)
    (h' : caps.validateModifiers raw' = .ok cleaned') :
    caps.validateModifiers (raw ++ raw') = .ok (cleaned ++ cleaned'.filter (· ∉ cleaned)) := by
  obtain ⟨hallowed, rfl⟩ := validateModifiers_eq_ok.1 h
  obtain ⟨hallowed', rfl⟩ := validateModifiers_eq_ok.1 h'
  apply validateModifiers_eq_ok.2
  constructor
  · intro c hc
    cases List.mem_append.1 hc with
    | inl hc => exact hallowed c hc
    | inr hc => exact hallowed' c hc
  · simp only [distinct_append, mem_distinct]

/-- One pass over modifiers splits them into those that a table allows and the others. The table
accepts them if there are no others, and refuses them with both lists if there are some. What it
accepts it accepts again as it is, and to that it adds what is new in modifiers that follow. -/
theorem validateModifiers_splits (caps : Capabilities) (raw : List Char) :
    (∀ cleaned invalid, raw.foldl caps.sift ([], []) = (cleaned, invalid) ↔
      caps.Splits raw cleaned invalid) ∧
    (∀ cleaned, caps.validateModifiers raw = .ok cleaned ↔ caps.Splits raw cleaned []) ∧
    (∀ e, caps.validateModifiers raw = .error e ↔
      ∃ cleaned invalid, caps.Splits raw cleaned invalid ∧ invalid ≠ [] ∧
        e = .modifier caps.label invalid caps.allowedModifiers cleaned) ∧
    ∀ cleaned, caps.validateModifiers raw = .ok cleaned →
      caps.validateModifiers cleaned = .ok cleaned ∧
      ∀ raw' cleaned', caps.validateModifiers raw' = .ok cleaned' →
        caps.validateModifiers (raw ++ raw') =
          .ok (cleaned ++ cleaned'.filter (· ∉ cleaned)) := by
  refine ⟨fun _ _ => foldl_sift_eq_iff, fun _ => validateModifiers_accepts,
    fun _ => validateModifiers_refuses, ?_⟩
  intro cleaned h
  exact ⟨validateModifiers_again h, fun raw' cleaned' => validateModifiers_append h⟩

theorem validateModifiers_splits_pcre :
    (draft .pcre).validateModifiers ['s', 'i', 's'] = .ok ['s', 'i'] ∧
    (draft .pcre).validateModifiers ['s', 'i'] = .ok ['s', 'i'] ∧
    (draft .pcre).validateModifiers ['m', 'i'] = .ok ['m', 'i'] ∧
    (draft .pcre).validateModifiers ['s', 'i', 's', 'm', 'i'] = .ok ['s', 'i', 'm'] := by
  have hfirst : (draft .pcre).validateModifiers ['s', 'i', 's'] = .ok ['s', 'i'] := by rfl
  have hsecond : (draft .pcre).validateModifiers ['m', 'i'] = .ok ['m', 'i'] := by rfl
  obtain ⟨-, -, -, haccepted⟩ := validateModifiers_splits (draft .pcre) ['s', 'i', 's']
  obtain ⟨hagain, happend⟩ := haccepted ['s', 'i'] hfirst
  exact ⟨hfirst, hagain, hsecond, happend ['m', 'i'] ['m', 'i'] hsecond⟩

end Capabilities

end RegexGateway
