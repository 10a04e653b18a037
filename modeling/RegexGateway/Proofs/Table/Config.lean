import RegexGateway.Table.Config

namespace RegexGateway

/-- A length that lies between 1 and its limit. -/
def Fits (length limit : Nat) : Prop := 1 ≤ length ∧ length ≤ limit

theorem Fits.clampLength_eq {length limit : Nat} (h : Fits length limit) :
    clampLength length limit = length := by
  simp only [Fits] at h
  simp only [clampLength]
  omega

theorem fits_clampLength (value : Nat) {limit : Nat} (h : 1 ≤ limit) :
    Fits (clampLength value limit) limit := by
  simp only [Fits, clampLength]
  omega

theorem Fits.one_le_limit {length limit : Nat} (h : Fits length limit) : 1 ≤ limit :=
  Nat.le_trans h.1 h.2

namespace Text

theorem visibleChar_length_pos (c : Char) : 0 < (visibleChar c).length := by
  unfold visibleChar
  split <;> simp

theorem take_visible_take (text : List Char) {m n : Nat} (h : m ≤ n) :
    (visible (text.take n)).take m = (visible text).take m := by
  induction text generalizing m n with
  | nil => simp [visible]
  | cons c rest ih =>
    have hpos := visibleChar_length_pos c
    cases n with
    | zero => simp [Nat.le_zero.1 h]
    | succ n =>
      have hrest := @ih (m - (visibleChar c).length) n (by omega)
      simp only [visible, List.take_succ_cons, List.flatMap_cons, List.take_append] at hrest ⊢
      rw [hrest]

/-- To cut a text before its blanks are shown changes nothing if it is cut again after. -/
theorem truncate_visible_truncate (length : Nat) (text : List Char) :
    truncate length (visible (truncate length text)) = truncate length (visible text) :=
  take_visible_take text (Nat.le_refl length)

end Text

namespace MatchConfig

/-- A config in which every length fits its limit. -/
structure Bounded (c : MatchConfig) : Prop where
  partLength : Fits c.settings.partLength c.limits.partLength
  wholeLength : Fits c.settings.wholeLength c.limits.wholeLength
  sampleLength : Fits c.settings.sampleLength c.limits.sampleLength

theorem normalize_bounded (c : MatchConfig) : c.normalize.Bounded where
  partLength := fits_clampLength _ (Nat.le_max_right _ _)
  wholeLength := fits_clampLength _ (Nat.le_max_right _ _)
  sampleLength := fits_clampLength _ (Nat.le_max_right _ _)

/-- What changes can make of a config: they keep its limits, and whether it truncates if that is not
optional. -/
structure Derived (base c : MatchConfig) : Prop where
  limits : c.limits = base.limits
  bounded : c.Bounded
  truncate : base.limits.truncateOptional = false → c.settings.truncate = base.settings.truncate

theorem Bounded.derived {c : MatchConfig} (h : c.Bounded) : Derived c c := ⟨rfl, h, fun _ => rfl⟩

theorem Derived.set {base c : MatchConfig} (h : Derived base c) (update : SettingUpdate) :
    Derived base (c.set update) := by
  obtain ⟨hlimits, ⟨hpart, hwhole, hsample⟩, htruncate⟩ := h
  cases update with
  | chain b => exact ⟨hlimits, ⟨hpart, hwhole, hsample⟩, htruncate⟩
  | partLength n =>
    exact ⟨hlimits, ⟨fits_clampLength n hpart.one_le_limit, hwhole, hsample⟩, htruncate⟩
  | wholeLength n =>
    exact ⟨hlimits, ⟨hpart, fits_clampLength n hwhole.one_le_limit, hsample⟩, htruncate⟩
  | sampleLength n =>
    exact ⟨hlimits, ⟨hpart, hwhole, fits_clampLength n hsample.one_le_limit⟩, htruncate⟩
  | showBlanks b => exact ⟨hlimits, ⟨hpart, hwhole, hsample⟩, htruncate⟩
  | truncate b =>
    simp only [MatchConfig.set]
    split
    · rename_i hoptional
      have hfixed : base.limits.truncateOptional ≠ false := by
        intro hfixed
        rw [hlimits, hfixed] at hoptional
        contradiction
      exact ⟨hlimits, ⟨hpart, hwhole, hsample⟩, fun h => absurd h hfixed⟩
    · exact ⟨hlimits, ⟨hpart, hwhole, hsample⟩, htruncate⟩

theorem Derived.foldl {base c : MatchConfig} (h : Derived base c) (updates : List SettingUpdate) :
    Derived base (updates.foldl MatchConfig.set c) := by
  induction updates generalizing c with
  | nil => exact h
  | cons update rest ih => exact ih (h.set update)

theorem Derived.apply {base c : MatchConfig} (h : Derived base c) (settings : MatchSettings) :
    Derived base (c.apply settings) := h.foldl settings.updates

/-- The config without names for blanks. -/
def hideBlanks (c : MatchConfig) : MatchConfig := { c with settings.showBlanks := false }

theorem Derived.hideBlanks {base c : MatchConfig} (h : Derived base c) :
    Derived base c.hideBlanks := h.set (.showBlanks false)

theorem Derived.apply_settings {base c : MatchConfig} (h : Derived base c) :
    base.apply c.settings = c := by
  obtain ⟨⟨chain, part, whole, sample, blanks, truncate⟩, limits⟩ := c
  obtain ⟨hlimits, ⟨hpart, hwhole, hsample⟩, htruncate⟩ := h
  simp only at hlimits hpart hwhole hsample htruncate
  subst hlimits
  simp only [MatchConfig.apply, MatchSettings.updates, List.foldl_cons, List.foldl_nil,
    MatchConfig.set, hpart.clampLength_eq, hwhole.clampLength_eq, hsample.clampLength_eq]
  split
  · rfl
  · rename_i hfixed
    rw [htruncate (by simpa using hfixed)]

/-- Blanks may be shown after the text was cut for the first time. -/
theorem present_hideBlanks (c : MatchConfig) (length : Nat) (text : List Char) :
    c.present length (c.hideBlanks.present length text) = c.present length text := by
  obtain ⟨⟨_, _, _, _, blanks, truncate⟩, _⟩ := c
  cases truncate <;> cases blanks <;>
    simp [hideBlanks, present, clip, Text.truncate_visible_truncate]
  exact List.take_of_length_le (Text.length_truncate_le length text)

end MatchConfig

end RegexGateway
