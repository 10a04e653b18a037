import RegexGateway.Proofs.Dialect.Literal
import RegexGateway.Proofs.Table.Capabilities
import RegexGateway.Wire.Handler

namespace RegexGateway

/-- A call that changes a config or a copy of it: one of the settings, or all of them at once. -/
inductive ConfigChange where
  | one (update : SettingUpdate)
  | all (settings : MatchSettings)
  deriving DecidableEq, Repr

/-- The length nearest to `value` between 1 and `limit`, if there is any. -/
def clampChecked (value limit : Nat) : Option Nat :=
  if 1 ≤ limit then some (clampLength value limit) else none

theorem clampChecked_eq {limit : Nat} (value : Nat) (h : 1 ≤ limit) :
    clampChecked value limit = some (clampLength value limit) := if_pos h

theorem foldlM_eq_foldl {α β : Type} (P : β → Prop) {f : β → α → Option β} {g : β → α → β}
    (hstep : ∀ b a, P b → f b a = some (g b a)) (hkeep : ∀ b a, P b → P (g b a)) {b : β} (h : P b)
    (items : List α) : items.foldlM f b = some (items.foldl g b) ∧ P (items.foldl g b) := by
  induction items generalizing b with
  | nil => exact ⟨rfl, h⟩
  | cons a rest ih =>
    rw [List.foldlM_cons, hstep b a h]
    exact ih (hkeep b a h)

namespace MatchConfig

/-- The ways to get a config without a change of another one. -/
inductive Made : MatchConfig → Prop where
  | ofLimits (limits : MatchLimits) : Made (ofLimits limits)
  | normalize (c : MatchConfig) : Made c.normalize

def change (c : MatchConfig) : ConfigChange → MatchConfig
  | .one update => c.set update
  | .all settings => c.apply settings

def normalizeChecked (c : MatchConfig) : Option MatchConfig := do
  let limits := c.normalize.limits
  let partLength ← clampChecked c.settings.partLength limits.partLength
  let wholeLength ← clampChecked c.settings.wholeLength limits.wholeLength
  let sampleLength ← clampChecked c.settings.sampleLength limits.sampleLength
  return { settings := { c.settings with partLength, wholeLength, sampleLength }, limits }

def setChecked (c : MatchConfig) : SettingUpdate → Option MatchConfig
  | .partLength n => do
    return { c with settings.partLength := ← clampChecked n c.limits.partLength }
  | .wholeLength n => do
    return { c with settings.wholeLength := ← clampChecked n c.limits.wholeLength }
  | .sampleLength n => do
    return { c with settings.sampleLength := ← clampChecked n c.limits.sampleLength }
  | update => some (c.set update)

def changeChecked (c : MatchConfig) : ConfigChange → Option MatchConfig
  | .one update => c.setChecked update
  | .all settings => settings.updates.foldlM setChecked c

section

variable {base c : MatchConfig}

theorem Made.bounded (h : c.Made) : c.Bounded := by
  cases h with
  | ofLimits limits => exact normalize_bounded _
  | normalize c => exact normalize_bounded c

theorem Made.ofSpec {spec : EngineSpec} {caps : Capabilities}
    (h : Capabilities.ofSpec spec = .ok caps) : caps.config.Made := by
  obtain ⟨-, -, modifiers, -, -, rfl⟩ := Capabilities.ofSpec_eq_ok.1 h
  exact .normalize spec.config

theorem Bounded.normalize_eq (h : c.Bounded) : c.normalize = c := by
  obtain ⟨hpart, hwhole, hsample⟩ := h
  simp only [normalize, Nat.max_eq_left hpart.one_le_limit, Nat.max_eq_left hwhole.one_le_limit,
    Nat.max_eq_left hsample.one_le_limit, hpart.clampLength_eq, hwhole.clampLength_eq,
    hsample.clampLength_eq]

theorem normalizeChecked_eq (c : MatchConfig) : c.normalizeChecked = some c.normalize := by
  have hbounded := c.normalize_bounded
  simp only [normalizeChecked, clampChecked_eq _ hbounded.partLength.one_le_limit,
    clampChecked_eq _ hbounded.wholeLength.one_le_limit,
    clampChecked_eq _ hbounded.sampleLength.one_le_limit]
  rfl

theorem Bounded.setChecked_eq (h : c.Bounded) (update : SettingUpdate) :
    c.setChecked update = some (c.set update) := by
  cases update with
  | partLength n => simp [setChecked, set, clampChecked_eq n h.partLength.one_le_limit]
  | wholeLength n => simp [setChecked, set, clampChecked_eq n h.wholeLength.one_le_limit]
  | sampleLength n => simp [setChecked, set, clampChecked_eq n h.sampleLength.one_le_limit]
  | chain b => rfl
  | showBlanks b => rfl
  | truncate b => rfl

theorem Derived.change (h : Derived base c) (x : ConfigChange) : Derived base (c.change x) := by
  cases x with
  | one update => exact h.set update
  | all settings => exact h.apply settings

theorem Derived.changeChecked_eq (h : Derived base c) (x : ConfigChange) :
    c.changeChecked x = some (c.change x) := by
  cases x with
  | one update => exact h.bounded.setChecked_eq update
  | all settings =>
    exact (foldlM_eq_foldl (Derived base) (fun _ update hc => hc.bounded.setChecked_eq update)
      (fun _ update hc => hc.set update) h settings.updates).1

theorem Derived.changes (h : Derived base c) (changes : List ConfigChange) :
    changes.foldlM changeChecked c = some (changes.foldl MatchConfig.change c) ∧
      Derived base (changes.foldl MatchConfig.change c) :=
  foldlM_eq_foldl (Derived base) (fun _ x hc => hc.changeChecked_eq x) (fun _ x hc => hc.change x) h
    changes

end

/-- Every history of changes ends, with a result, in a config with the limits that it started from.
Its lengths fit them, and it truncates as at the start unless that is optional. Its settings lead
there from the start at once, so a handler that starts from the same config runs a request under
exactly the config whose settings the request brings. -/
theorem changes_determined (base : MatchConfig) (hbase : base.Made) (changes : List ConfigChange) :
    ∃ c, changes.foldl change base = c ∧ changes.foldlM changeChecked base = some c ∧
      c.limits = base.limits ∧
      (1 ≤ c.limits.partLength ∧ 1 ≤ c.limits.wholeLength ∧ 1 ≤ c.limits.sampleLength) ∧
      c.Bounded ∧
      (base.limits.truncateOptional = false → c.settings.truncate = base.settings.truncate) ∧
      base.apply c.settings = c ∧ c.normalize = c ∧ c.normalizeChecked = some c ∧
      ∀ h : Handler, h.capabilities.config = base → ∀ samples patterns,
        h.answer (.findMatches ⟨c.settings, samples, patterns⟩) =
          SampleMatches.codec.list.encode <$> h.runner.matchSamples c patterns samples := by
  have hstart := hbase.bounded.derived
  obtain ⟨hchecked, hderived⟩ := hstart.changes changes
  have happly := hderived.apply_settings
  obtain ⟨hlimits, hbounded, htruncate⟩ := hderived
  have hnormalize := hbounded.normalize_eq
  refine ⟨_, rfl, hchecked, hlimits, ?_, hbounded, htruncate, happly,
    hnormalize, ?_, ?_⟩
  · exact ⟨hbounded.partLength.one_le_limit, hbounded.wholeLength.one_le_limit,
      hbounded.sampleLength.one_le_limit⟩
  · rw [normalizeChecked_eq, hnormalize]
  · intro h hconfig samples patterns
    simp only [Handler.answer, hconfig, happly]
    rfl

theorem changes_determined_words :
    Capabilities.words.config.Made ∧
    ∃ c : MatchConfig, c = ⟨⟨false, 7, 20, 1, true, true⟩, ⟨20, 20, 20, false⟩⟩ ∧
      [ConfigChange.one (.partLength 0), .one (.truncate false),
        .all ⟨false, 7, 500, 0, true, false⟩].foldlM changeChecked Capabilities.words.config =
          some c ∧
      c.settings.truncate = Capabilities.words.config.settings.truncate ∧
      Capabilities.words.config.apply c.settings = c ∧
      (Handler.mk .words .literal).answer (.findMatches ⟨c.settings, [['a']], []⟩) =
        SampleMatches.codec.list.encode <$>
          (Handler.mk .words .literal).runner.matchSamples c [] [['a']] := by
  have hmade : Capabilities.words.config.Made := .ofSpec Capabilities.ofSpec_words
  obtain ⟨c, hc, hchecked, -, -, -, htruncate, happly, -, -, hanswer⟩ :=
    changes_determined Capabilities.words.config hmade
      [.one (.partLength 0), .one (.truncate false), .all ⟨false, 7, 500, 0, true, false⟩]
  exact ⟨hmade, c, hc.symm, hchecked, htruncate rfl, happly, hanswer _ rfl _ _⟩

end MatchConfig

end RegexGateway
