import RegexGateway.Proofs.Table.Refusal

namespace RegexGateway

/-- The characters of a list, each of them once, in the order in which they first occur. -/
structure FirstOccurrences (cs ds : List Char) : Prop where
  nodup : ds.Nodup
  mem_iff : ∀ c, c ∈ ds ↔ c ∈ cs
  ordered : ds.Pairwise fun c d => cs.idxOf c < cs.idxOf d

theorem firstOccurrences_distinct (cs : List Char) : FirstOccurrences cs (distinct cs) where
  nodup := nodup_distinct cs
  mem_iff _ := mem_distinct
  ordered := by
    induction cs with
    | nil => exact .nil
    | cons c rest ih =>
      have hlater : ∀ d ∈ (distinct rest).filter (· ≠ c), d ≠ c := by simp
      apply List.Pairwise.cons
      · intro d hd
        simp [List.idxOf_cons_ne rest (hlater d hd).symm]
      · apply (ih.filter _).imp_of_mem
        intro d d' hd hd' hlt
        rw [List.idxOf_cons_ne rest (hlater d hd).symm,
          List.idxOf_cons_ne rest (hlater d' hd').symm]
        exact Nat.succ_lt_succ hlt

namespace EngineSpec

/-- A description that agrees with itself. -/
structure Sound (spec : EngineSpec) : Prop where
  letters : ∀ c ∈ spec.allowedModifiers, c.isAlpha
  globalModifier : ∀ c ∈ spec.globalModifier, c ∈ spec.allowedModifiers
  defaultModifiers : ∀ c ∈ spec.defaultModifiers, c ∈ spec.allowedModifiers
  defaultDelimiters : spec.delimiterRequired →
    spec.defaultDelimiters.opening ∈ spec.allowedDelimiters

/-- What is wrong with a description. Of several things the first one in this order counts. -/
inductive Fault (spec : EngineSpec) : ConfigError → Prop where
  | letters (hdud : ∃ c ∈ spec.allowedModifiers, c.isAlpha = false) :
      Fault spec (.nonAlphabeticModifier spec.label
        (spec.allowedModifiers.filter fun c => !c.isAlpha))
  | globalModifier {c : Char} (hletters : ∀ c ∈ spec.allowedModifiers, c.isAlpha)
      (hglobal : spec.globalModifier = some c) (hdenied : c ∉ spec.allowedModifiers) :
      Fault spec (.table (.globalNotAllowed spec.id c))
  | defaultModifiers (hletters : ∀ c ∈ spec.allowedModifiers, c.isAlpha)
      (hglobal : ∀ c ∈ spec.globalModifier, c ∈ spec.allowedModifiers)
      (hdenied : ∃ c ∈ spec.defaultModifiers, c ∉ spec.allowedModifiers) :
      Fault spec (.invalidDefaults spec.id (.modifier spec.label
        (distinct (spec.defaultModifiers.filter (· ∉ spec.allowedModifiers)))
        (distinct spec.allowedModifiers)
        (distinct (spec.defaultModifiers.filter (· ∈ spec.allowedModifiers)))))
  | defaultDelimiters (hletters : ∀ c ∈ spec.allowedModifiers, c.isAlpha)
      (hglobal : ∀ c ∈ spec.globalModifier, c ∈ spec.allowedModifiers)
      (hdefaults : ∀ c ∈ spec.defaultModifiers, c ∈ spec.allowedModifiers)
      (hrequired : spec.delimiterRequired)
      (hdenied : spec.defaultDelimiters.opening ∉ spec.allowedDelimiters) :
      Fault spec (.invalidDefaults spec.id (.delimiter spec.defaultDelimiters.opening
        spec.allowedDelimiters spec.defaultDelimiters))

variable {spec : EngineSpec}

theorem sound_or_fault (spec : EngineSpec) : spec.Sound ∨ ∃ e, spec.Fault e := by
  by_cases hletters : ∀ c ∈ spec.allowedModifiers, c.isAlpha
  · by_cases hglobal : ∀ c ∈ spec.globalModifier, c ∈ spec.allowedModifiers
    · by_cases hdefaults : ∀ c ∈ spec.defaultModifiers, c ∈ spec.allowedModifiers
      · by_cases hdelimiters : spec.delimiterRequired →
            spec.defaultDelimiters.opening ∈ spec.allowedDelimiters
        · exact .inl ⟨hletters, hglobal, hdefaults, hdelimiters⟩
        · obtain ⟨hrequired, hdenied⟩ := Classical.not_imp.1 hdelimiters
          exact .inr ⟨_, .defaultDelimiters hletters hglobal hdefaults hrequired hdenied⟩
      · exact .inr ⟨_, .defaultModifiers hletters hglobal (by simpa using hdefaults)⟩
    · obtain ⟨c, hc, hdenied⟩ : ∃ c ∈ spec.globalModifier, c ∉ spec.allowedModifiers := by
        simpa using hglobal
      exact .inr ⟨_, .globalModifier hletters hc hdenied⟩
  · exact .inr ⟨_, .letters (by simpa using hletters)⟩

end EngineSpec

namespace Capabilities

variable {spec : EngineSpec} {caps : Capabilities}

theorem draft_validateModifiers_eq_ok {raw cleaned : List Char} :
    (draft spec).validateModifiers raw = .ok cleaned ↔
      (∀ c ∈ raw, c ∈ spec.allowedModifiers) ∧ cleaned = distinct raw := by
  simp only [validateModifiers_eq_ok, draft, mem_distinct]

/-- What an engine has from its description. -/
structure BuiltFrom (caps : Capabilities) (spec : EngineSpec) : Prop where
  ofSpec_eq : ofSpec spec = .ok caps
  fields : caps = { draft spec with defaults.modifiers := caps.defaults.modifiers }
  allowedModifiers : FirstOccurrences spec.allowedModifiers caps.allowedModifiers
  defaultModifiers : FirstOccurrences spec.defaultModifiers caps.defaults.modifiers
  config : caps.config.Bounded

theorem builtFrom_of_eq_ok (h : ofSpec spec = .ok caps) : caps.BuiltFrom spec := by
  have hbounded := ofSpec_bounded h
  obtain ⟨-, -, modifiers, hmodifiers, -, rfl⟩ := ofSpec_eq_ok.1 h
  obtain ⟨-, rfl⟩ := draft_validateModifiers_eq_ok.1 hmodifiers
  exact ⟨h, rfl, firstOccurrences_distinct _, firstOccurrences_distinct _, hbounded⟩

theorem ofSpec_eq_ok_iff_builtFrom : ofSpec spec = .ok caps ↔ caps.BuiltFrom spec :=
  ⟨builtFrom_of_eq_ok, BuiltFrom.ofSpec_eq⟩

theorem BuiltFrom.id_eq (h : caps.BuiltFrom spec) : caps.id = spec.id :=
  congrArg Capabilities.id h.fields

theorem exists_ofSpec_eq_ok : (∃ caps, ofSpec spec = .ok caps) ↔ spec.Sound := by
  constructor
  · rintro ⟨caps, h⟩
    obtain ⟨hletters, hglobal, modifiers, hmodifiers, hdelimiters, -⟩ := ofSpec_eq_ok.1 h
    obtain ⟨hdefaults, -⟩ := draft_validateModifiers_eq_ok.1 hmodifiers
    exact ⟨hletters, hglobal, hdefaults, fun hrequired => takes_iff.1 (hdelimiters hrequired)⟩
  · intro h
    have hmodifiers := draft_validateModifiers_eq_ok.2 ⟨h.defaultModifiers, rfl⟩
    exact ⟨_, ofSpec_eq_ok.2 ⟨h.letters, h.globalModifier, _, hmodifiers,
      fun hrequired => takes_iff.2 (h.defaultDelimiters hrequired), rfl⟩⟩

theorem ofSpec_of_fault {e : ConfigError} (h : spec.Fault e) : ofSpec spec = .error e := by
  cases h with
  | letters hdud =>
    have hduds : (spec.allowedModifiers.filter fun c => !c.isAlpha) ≠ [] := by simpa using hdud
    simp [ofSpec, hduds, throw, throwThe, MonadExceptOf.throw, bind, Except.bind]
  | globalModifier hletters hglobal hdenied =>
    have hduds : (spec.allowedModifiers.filter fun c => !c.isAlpha) = [] := by simpa using hletters
    simp [ofSpec, hduds, hglobal, hdenied, throw, throwThe, MonadExceptOf.throw, bind, Except.bind]
  | defaultModifiers hletters hglobal hdenied =>
    have herror : (draft spec).validateModifiers spec.defaultModifiers = .error _ :=
      validateModifiers_eq_error.2 ⟨by simpa [draft, mem_distinct] using hdenied, rfl⟩
    rw [ofSpec_eq_settle hletters hglobal, settle, herror]
    simp [draft, mem_distinct, bind, Except.bind]
  | defaultDelimiters hletters hglobal hdefaults hrequired hdenied =>
    have hmodifiers := draft_validateModifiers_eq_ok.2 ⟨hdefaults, rfl⟩
    have herror : (draft spec).validateDelimiters spec.defaultDelimiters = .error _ :=
      if_pos hdenied
    rw [ofSpec_eq_settle hletters hglobal, settle, hmodifiers, herror]
    simp [draft, hrequired, bind, Except.bind]

theorem ofSpec_eq_error {e : ConfigError} : ofSpec spec = .error e ↔ spec.Fault e := by
  constructor
  · intro h
    rcases spec.sound_or_fault with hsound | ⟨e', hfault⟩
    · obtain ⟨caps, hcaps⟩ := exists_ofSpec_eq_ok.2 hsound
      rw [hcaps] at h
      contradiction
    · obtain rfl := Except.error.inj ((ofSpec_of_fault hfault).symm.trans h)
      exact hfault
  · exact ofSpec_of_fault

end Capabilities

/-- Why a description cannot join engines with the ids `taken`. -/
inductive EngineSpec.Rejected (spec : EngineSpec) (taken : List String) : ConfigError → Prop where
  | duplicate (htaken : spec.id ∈ taken) : Rejected spec taken (.table (.duplicateId spec.id))
  | faulty {e : ConfigError} (hnew : spec.id ∉ taken) (hfault : spec.Fault e) :
      Rejected spec taken e

namespace Registry

variable {engines all : List Capabilities} {spec : EngineSpec} {specs : List EngineSpec}
  {e : ConfigError}

theorem extend_cons (engines : List Capabilities) (spec : EngineSpec) (specs : List EngineSpec) :
    extend engines (spec :: specs) =
      if spec.id ∈ engines.map Capabilities.id then .error (.table (.duplicateId spec.id))
      else Capabilities.ofSpec spec >>= fun caps => extend (engines ++ [caps]) specs := by
  by_cases htaken : spec.id ∈ engines.map Capabilities.id
  · have hany : (engines.any fun caps => caps.id = spec.id) = true := by simpa using htaken
    simp only [extend, hany, if_pos htaken, if_true, throw, throwThe, MonadExceptOf.throw, bind,
      Except.bind]
  · have hany : (engines.any fun caps => caps.id = spec.id) = false := by simpa using htaken
    simp only [extend, hany, if_neg htaken, Bool.false_eq_true, if_false]

theorem extend_cons_eq_ok :
    extend engines (spec :: specs) = .ok all ↔
      spec.id ∉ engines.map Capabilities.id ∧
      ∃ caps, caps.BuiltFrom spec ∧ extend (engines ++ [caps]) specs = .ok all := by
  rw [extend_cons]
  split
  · rename_i htaken
    simp [htaken]
  · rename_i hnew
    simp only [hnew, not_false_iff, true_and, bind_eq_ok, Capabilities.ofSpec_eq_ok_iff_builtFrom]

theorem extend_cons_eq_error :
    extend engines (spec :: specs) = .error e ↔
      spec.Rejected (engines.map Capabilities.id) e ∨
      spec.id ∉ engines.map Capabilities.id ∧
        ∃ caps, caps.BuiltFrom spec ∧ extend (engines ++ [caps]) specs = .error e := by
  rw [extend_cons]
  split
  · rename_i htaken
    constructor
    · intro h
      obtain rfl := Except.error.inj h
      exact .inl (.duplicate htaken)
    · rintro ((- | ⟨hnew, -⟩) | ⟨hnew, -⟩)
      · rfl
      · exact absurd htaken hnew
      · exact absurd htaken hnew
  · rename_i hnew
    constructor
    · intro h
      cases hcaps : Capabilities.ofSpec spec with
      | error e' =>
        obtain rfl : e' = e := by simpa [hcaps, bind, Except.bind] using h
        exact .inl (.faulty hnew (Capabilities.ofSpec_eq_error.1 hcaps))
      | ok caps =>
        rw [hcaps] at h
        exact .inr ⟨hnew, caps, Capabilities.ofSpec_eq_ok_iff_builtFrom.1 hcaps, h⟩
    · rintro ((htaken | ⟨-, hfault⟩) | ⟨-, caps, hbuilt, hrest⟩)
      · exact absurd htaken hnew
      · rw [Capabilities.ofSpec_eq_error.2 hfault]
        rfl
      · rw [hbuilt.ofSpec_eq]
        exact hrest

theorem extend_eq_ok :
    extend engines specs = .ok all ↔
      (specs.map EngineSpec.id).Nodup ∧
      (∀ spec ∈ specs, spec.id ∉ engines.map Capabilities.id) ∧
      ∃ added, List.Forall₂ Capabilities.BuiltFrom added specs ∧ all = engines ++ added := by
  induction specs generalizing engines with
  | nil => simp [extend, eq_comm]
  | cons spec rest ih =>
    simp only [extend_cons_eq_ok, ih, List.map_cons, List.nodup_cons, List.forall_mem_cons]
    constructor
    · rintro ⟨hnew, caps, hcaps, hnodup, hrest, added, hadded, rfl⟩
      refine ⟨⟨?_, hnodup⟩, ⟨hnew, ?_⟩, caps :: added, .cons hcaps hadded, by simp⟩
      · rintro hmem
        obtain ⟨spec', hspec', hid⟩ := List.mem_map.1 hmem
        exact hrest spec' hspec' (by simp [hid, hcaps.id_eq])
      · intro spec' hspec' htaken
        exact hrest spec' hspec' (by simp [htaken])
    · rintro ⟨⟨hfirst, hnodup⟩, ⟨hnew, hrest⟩, added, hadded, rfl⟩
      cases hadded with
      | @cons caps _ added _ hcaps hadded =>
        refine ⟨hnew, caps, hcaps, hnodup, ?_, added, hadded, by simp⟩
        intro spec' hspec'
        have hdifferent : spec'.id ≠ spec.id := by
          intro hid
          exact hfirst (List.mem_map.2 ⟨spec', hspec', hid⟩)
        simpa [hcaps.id_eq, hdifferent] using hrest spec' hspec'

theorem extend_eq_error :
    extend engines specs = .error e ↔
      ∃ before spec after, specs = before ++ spec :: after ∧
        ∃ all, extend engines before = .ok all ∧ spec.Rejected (all.map Capabilities.id) e := by
  induction specs generalizing engines with
  | nil => simp [extend]
  | cons spec rest ih =>
    rw [extend_cons_eq_error]
    constructor
    · rintro (hrejected | ⟨hnew, caps, hcaps, hrest⟩)
      · exact ⟨[], spec, rest, rfl, engines, rfl, hrejected⟩
      · obtain ⟨before, bad, after, rfl, all, hall, hrejected⟩ := ih.1 hrest
        exact ⟨spec :: before, bad, after, rfl, all, extend_cons_eq_ok.2 ⟨hnew, caps, hcaps, hall⟩,
          hrejected⟩
    · rintro ⟨before, bad, after, heq, all, hall, hrejected⟩
      cases before with
      | nil =>
        obtain ⟨rfl, rfl⟩ := List.cons.inj heq
        obtain rfl := Except.ok.inj hall
        exact .inl hrejected
      | cons first before =>
        obtain ⟨rfl, rfl⟩ := List.cons.inj heq
        obtain ⟨hnew, caps, hcaps, hrest⟩ := extend_cons_eq_ok.1 hall
        exact .inr ⟨hnew, caps, hcaps, ih.2 ⟨before, bad, after, rfl, all, hrest, hrejected⟩⟩

theorem ofSpecs_eq_ok {r : Registry} :
    ofSpecs specs = .ok r ↔
      (specs.map EngineSpec.id).Nodup ∧ List.Forall₂ Capabilities.BuiltFrom r.engines specs := by
  simp only [ofSpecs, bind_pure_comp, map_eq_ok, extend_eq_ok]
  constructor
  · rintro ⟨_, ⟨hnodup, -, added, hadded, rfl⟩, rfl⟩
    exact ⟨hnodup, hadded⟩
  · rintro ⟨hnodup, hbuilt⟩
    exact ⟨r.engines, ⟨hnodup, by simp, r.engines, hbuilt, rfl⟩, rfl⟩

theorem map_id_of_builtFrom (h : List.Forall₂ Capabilities.BuiltFrom all specs) :
    all.map Capabilities.id = specs.map EngineSpec.id := by
  induction h with
  | nil => rfl
  | cons hcaps _ ih => rw [List.map_cons, List.map_cons, hcaps.id_eq, ih]

theorem exists_mem_of_builtFrom (h : List.Forall₂ Capabilities.BuiltFrom all specs)
    (hspec : spec ∈ specs) : ∃ caps ∈ all, caps.BuiltFrom spec := by
  induction h with
  | nil => contradiction
  | @cons caps first all rest hcaps _ ih =>
    rcases List.mem_cons.1 hspec with rfl | hrest
    · exact ⟨caps, List.mem_cons_self, hcaps⟩
    · obtain ⟨caps', hmem, hfrom⟩ := ih hrest
      exact ⟨caps', List.mem_cons_of_mem caps hmem, hfrom⟩

theorem exists_builtFrom :
    (∃ all, List.Forall₂ Capabilities.BuiltFrom all specs) ↔ ∀ spec ∈ specs, spec.Sound := by
  induction specs with
  | nil => simp
  | cons spec rest ih =>
    rw [List.forall_mem_cons, ← ih, ← Capabilities.exists_ofSpec_eq_ok]
    constructor
    · rintro ⟨_, hall⟩
      cases hall with
      | @cons caps _ all _ hcaps hall => exact ⟨⟨caps, hcaps.ofSpec_eq⟩, all, hall⟩
    · rintro ⟨⟨caps, hcaps⟩, all, hall⟩
      exact ⟨caps :: all, .cons (Capabilities.builtFrom_of_eq_ok hcaps) hall⟩

theorem find?_id (hnodup : (all.map Capabilities.id).Nodup) {caps : Capabilities}
    (hcaps : caps ∈ all) : (all.find? fun other => other.id = caps.id) = some caps := by
  induction all with
  | nil => contradiction
  | cons first rest ih =>
    obtain ⟨hfirst, hnodup⟩ := List.nodup_cons.1 hnodup
    rcases List.mem_cons.1 hcaps with rfl | hrest
    · simp
    · have hne : first.id ≠ caps.id := by
        intro heq
        exact hfirst (List.mem_map.2 ⟨caps, hrest, heq.symm⟩)
      simpa [List.find?_cons, hne] using ih hnodup hrest

theorem require_of_mem {r : Registry} (hnodup : (r.engines.map Capabilities.id).Nodup)
    {caps : Capabilities} (hcaps : caps ∈ r.engines) : r.require caps.id = .ok caps := by
  rw [require, get?, find?_id hnodup hcaps]

theorem require_of_not_mem {r : Registry} {id : String}
    (hunknown : id ∉ r.engines.map Capabilities.id) :
    r.require id = .error (.unknownEngine id) := by
  have hnone : r.get? id = none := by
    rw [get?, List.find?_eq_none]
    intro caps hcaps
    simpa using fun heq => hunknown (List.mem_map.2 ⟨caps, hcaps, heq⟩)
  rw [require, hnone]

theorem exists_ofSpecs_eq_ok :
    (∃ r, ofSpecs specs = .ok r) ↔
      (specs.map EngineSpec.id).Nodup ∧ ∀ spec ∈ specs, spec.Sound := by
  rw [← exists_builtFrom]
  constructor
  · rintro ⟨r, h⟩
    obtain ⟨hnodup, hbuilt⟩ := ofSpecs_eq_ok.1 h
    exact ⟨hnodup, r.engines, hbuilt⟩
  · rintro ⟨hnodup, all, hbuilt⟩
    exact ⟨⟨all⟩, ofSpecs_eq_ok.2 ⟨hnodup, hbuilt⟩⟩

theorem ofSpecs_eq_error :
    ofSpecs specs = .error e ↔
      ∃ before spec after, specs = before ++ spec :: after ∧
        (before.map EngineSpec.id).Nodup ∧ (∀ s ∈ before, s.Sound) ∧
        spec.Rejected (before.map EngineSpec.id) e := by
  have hextend : ofSpecs specs = .error e ↔ extend [] specs = .error e := by
    unfold ofSpecs
    cases extend [] specs <;> simp [bind, Except.bind, pure, Except.pure]
  rw [hextend, extend_eq_error]
  constructor
  · rintro ⟨before, spec, after, rfl, all, hall, hrejected⟩
    obtain ⟨hnodup, -, added, hbuilt, rfl⟩ := extend_eq_ok.1 hall
    rw [map_id_of_builtFrom hbuilt] at hrejected
    exact ⟨before, spec, after, rfl, hnodup, exists_builtFrom.1 ⟨_, hbuilt⟩, hrejected⟩
  · rintro ⟨before, spec, after, rfl, hnodup, hsound, hrejected⟩
    obtain ⟨all, hbuilt⟩ := exists_builtFrom.2 hsound
    rw [← map_id_of_builtFrom hbuilt] at hrejected
    exact ⟨before, spec, after, rfl, all, extend_eq_ok.2 ⟨hnodup, by simp, all, hbuilt, rfl⟩,
      hrejected⟩

/-- The descriptions of a list make up a registry if each of them agrees with itself and no two have
the same id. Otherwise the first one that cannot join those before it is to blame. The registry has
an engine for each description, in order, and finds it by its id alone. -/
theorem ofSpecs_accepts (specs : List EngineSpec) :
    ((∃ r, ofSpecs specs = .ok r) ↔
      (specs.map EngineSpec.id).Nodup ∧ ∀ spec ∈ specs, spec.Sound) ∧
    (∀ e, ofSpecs specs = .error e ↔
      ∃ before spec after, specs = before ++ spec :: after ∧
        (before.map EngineSpec.id).Nodup ∧ (∀ s ∈ before, s.Sound) ∧
        spec.Rejected (before.map EngineSpec.id) e) ∧
    ∀ r, ofSpecs specs = .ok r →
      List.Forall₂ Capabilities.BuiltFrom r.engines specs ∧
      (∀ spec ∈ specs, ∃ caps, r.require spec.id = .ok caps ∧ caps.BuiltFrom spec) ∧
      ∀ id, id ∉ specs.map EngineSpec.id → r.require id = .error (.unknownEngine id) := by
  refine ⟨exists_ofSpecs_eq_ok, fun e => ofSpecs_eq_error, ?_⟩
  intro r h
  obtain ⟨hnodup, hbuilt⟩ := ofSpecs_eq_ok.1 h
  rw [← map_id_of_builtFrom hbuilt] at hnodup ⊢
  refine ⟨hbuilt, ?_, fun id => require_of_not_mem⟩
  intro spec hspec
  obtain ⟨caps, hcaps, hfrom⟩ := exists_mem_of_builtFrom hbuilt hspec
  rw [← hfrom.id_eq]
  exact ⟨caps, require_of_mem hnodup hcaps, hfrom⟩

theorem ofSpecs_accepts_words :
    ofSpecs [.words] = .ok ⟨[.words]⟩ ∧
    (∃ caps, Registry.require ⟨[.words]⟩ "words" = .ok caps ∧ caps.BuiltFrom .words) ∧
    Registry.require ⟨[.words]⟩ "other" = .error (.unknownEngine "other") ∧
    ofSpecs [.words, .undelimited] = .error (.table (.duplicateId "words")) := by
  have hwords : ofSpecs [.words] = .ok ⟨[.words]⟩ := by rfl
  obtain ⟨haccepted, -, hfound⟩ := ofSpecs_accepts [.words]
  obtain ⟨-, hknown, hunknown⟩ := hfound ⟨[.words]⟩ hwords
  obtain ⟨-, hsound⟩ := haccepted.1 ⟨_, hwords⟩
  obtain ⟨-, hblamed, -⟩ := ofSpecs_accepts [.words, .undelimited]
  refine ⟨hwords, hknown .words List.mem_cons_self, hunknown "other" (by decide), ?_⟩
  exact (hblamed _).2 ⟨[.words], .undelimited, [], rfl, by simp, hsound, .duplicate (by decide)⟩

end Registry

end RegexGateway
