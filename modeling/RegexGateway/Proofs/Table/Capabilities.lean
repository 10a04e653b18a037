import RegexGateway.Proofs.Except
import RegexGateway.Proofs.Table.Config
import RegexGateway.Table.Registry

namespace RegexGateway

namespace Capabilities

/-- The table of a description before its default modifiers are known. -/
def draft (spec : EngineSpec) : Capabilities where
  id := spec.id
  name := spec.name
  docsUrl := spec.docsUrl
  apiUrl := spec.apiUrl
  allowedDelimiters := spec.allowedDelimiters
  allowedPairs := spec.allowedPairs
  allowedModifiers := distinct spec.allowedModifiers
  label := spec.label
  globalModifier := spec.globalModifier
  defaults := ⟨spec.defaultDelimiters, []⟩
  delimiterRequired := spec.delimiterRequired
  access := spec.access
  dialect := spec.dialect
  config := spec.config.normalize

/-- The checks of a description's defaults, which come last. -/
def settle (spec : EngineSpec) : Except ConfigError Capabilities := do
  let modifiers ← ((draft spec).validateModifiers spec.defaultModifiers).mapError
    (.invalidDefaults spec.id)
  if spec.delimiterRequired then
    let _ ← ((draft spec).validateDelimiters spec.defaultDelimiters).mapError
      (.invalidDefaults spec.id)
  return { draft spec with defaults.modifiers := modifiers }

section

variable {spec : EngineSpec} {caps : Capabilities}

theorem settle_eq_ok :
    settle spec = .ok caps ↔
      ∃ modifiers, (draft spec).validateModifiers spec.defaultModifiers = .ok modifiers ∧
        (spec.delimiterRequired →
          ∃ pair, (draft spec).validateDelimiters spec.defaultDelimiters = .ok pair) ∧
        caps = { draft spec with defaults.modifiers := modifiers } := by
  cases hrequired : spec.delimiterRequired with
  | true => simp [settle, hrequired, bind_eq_ok, map_eq_ok, mapError_eq_ok]
  | false => simp [settle, hrequired, map_eq_ok, mapError_eq_ok]

theorem ofSpec_eq_settle (halpha : ∀ c ∈ spec.allowedModifiers, c.isAlpha)
    (hglobal : ∀ c ∈ spec.globalModifier, c ∈ spec.allowedModifiers) :
    ofSpec spec = settle spec := by
  have hduds : spec.allowedModifiers.filter (fun c => !c.isAlpha) = [] := by simpa using halpha
  unfold ofSpec
  simp only [hduds]
  cases hmodifier : spec.globalModifier with
  | none => simp [settle, draft, hmodifier]
  | some c =>
    have hallowed : c ∈ spec.allowedModifiers := hglobal c hmodifier
    simp [settle, draft, hmodifier, hallowed]

theorem ofSpec_isAlpha (h : ofSpec spec = .ok caps) : ∀ c ∈ spec.allowedModifiers, c.isAlpha := by
  apply Classical.byContradiction
  intro hne
  have hduds : (spec.allowedModifiers.filter fun c => !c.isAlpha) ≠ [] := by simpa using hne
  simp [ofSpec, hduds, throw, throwThe, MonadExceptOf.throw, bind, Except.bind] at h

theorem ofSpec_globalModifier (h : ofSpec spec = .ok caps) :
    ∀ c ∈ spec.globalModifier, c ∈ spec.allowedModifiers := by
  intro c hglobal
  apply Classical.byContradiction
  intro hne
  have hduds : (spec.allowedModifiers.filter fun c => !c.isAlpha) = [] := by
    simpa using ofSpec_isAlpha h
  have hmodifier : spec.globalModifier = some c := hglobal
  simp [ofSpec, hduds, hmodifier, hne, throw, throwThe, MonadExceptOf.throw, bind,
    Except.bind] at h

/-- A description is accepted if its modifiers are letters, the global one is among them and its
defaults pass the table's own checks. -/
theorem ofSpec_eq_ok :
    ofSpec spec = .ok caps ↔
      (∀ c ∈ spec.allowedModifiers, c.isAlpha) ∧
      (∀ c ∈ spec.globalModifier, c ∈ spec.allowedModifiers) ∧
      ∃ modifiers, (draft spec).validateModifiers spec.defaultModifiers = .ok modifiers ∧
        (spec.delimiterRequired →
          ∃ pair, (draft spec).validateDelimiters spec.defaultDelimiters = .ok pair) ∧
        caps = { draft spec with defaults.modifiers := modifiers } := by
  constructor
  · intro h
    have halpha := ofSpec_isAlpha h
    have hglobal := ofSpec_globalModifier h
    rw [ofSpec_eq_settle halpha hglobal] at h
    exact ⟨halpha, hglobal, settle_eq_ok.1 h⟩
  · rintro ⟨halpha, hglobal, h⟩
    rw [ofSpec_eq_settle halpha hglobal]
    exact settle_eq_ok.2 h

theorem ofSpec_bounded (h : ofSpec spec = .ok caps) : caps.config.Bounded := by
  obtain ⟨-, -, modifiers, -, -, rfl⟩ := ofSpec_eq_ok.1 h
  exact spec.config.normalize_bounded

theorem ofSpec_defaults (h : ofSpec spec = .ok caps) (hrequired : caps.delimiterRequired) :
    ∃ pair, caps.validateDelimiters caps.defaults.delimiters = .ok pair := by
  obtain ⟨-, -, modifiers, -, hdelimiters, rfl⟩ := ofSpec_eq_ok.1 h
  exact hdelimiters hrequired

end

end Capabilities

end RegexGateway
