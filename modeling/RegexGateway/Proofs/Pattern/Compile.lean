import RegexGateway.Pattern.Compiled
import RegexGateway.Proofs.Except

namespace RegexGateway

namespace Runner

variable {r : Runner} {record : PatternRecord} {modifiers : List Char} {pair : DelimiterPair}
  {matcher : Matcher}

theorem compile_modifiers {e : ValidationError}
    (hmodifiers : r.capabilities.validateModifiers record.modifiers = .error e) :
    r.compile record = .error (e.toPatternError record.id) := by
  simp only [compile, hmodifiers, mapError_error, bind, Except.bind]

theorem compile_delimiters {e : ValidationError}
    (hmodifiers : r.capabilities.validateModifiers record.modifiers = .ok modifiers)
    (hdelimiters : r.delimiters record = .error e) :
    r.compile record = .error (e.toPatternError record.id) := by
  simp only [compile, hmodifiers, hdelimiters, mapError_ok, mapError_error, bind, Except.bind]

theorem compile_regex {d : Diagnostic}
    (hmodifiers : r.capabilities.validateModifiers record.modifiers = .ok modifiers)
    (hdelimiters : r.delimiters record = .ok pair)
    (hregex : r.dialect.compile record.regex (.ofModifiers modifiers) = .error d) :
    r.compile record = .error (d.toPatternError record.id) := by
  simp only [compile, hmodifiers, hdelimiters, hregex, mapError_ok, mapError_error, bind,
    Except.bind]

theorem compile_template {t : TemplateError}
    (hmodifiers : r.capabilities.validateModifiers record.modifiers = .ok modifiers)
    (hdelimiters : r.delimiters record = .ok pair)
    (hregex : r.dialect.compile record.regex (.ofModifiers modifiers) = .ok matcher)
    (htemplate : Template.parse record.replacementText = .error t) :
    r.compile record = .error (t.toPatternError record.id) := by
  simp only [compile, hmodifiers, hdelimiters, hregex, htemplate, mapError_ok, mapError_error,
    bind, Except.bind]

theorem compile_passed {template : Template}
    (hmodifiers : r.capabilities.validateModifiers record.modifiers = .ok modifiers)
    (hdelimiters : r.delimiters record = .ok pair)
    (hregex : r.dialect.compile record.regex (.ofModifiers modifiers) = .ok matcher)
    (htemplate : Template.parse record.replacementText = .ok template) :
    r.compile record = .ok ⟨record.id, matcher, template, r.capabilities.scanMode modifiers,
      (FlagSet.ofModifiers modifiers).anchored, modifiers, pair⟩ := by
  simp only [compile, hmodifiers, hdelimiters, hregex, htemplate, mapError_ok, bind, Except.bind,
    pure, Except.pure]

theorem compile_usable {template : Template}
    (hmodifiers : r.capabilities.validateModifiers record.modifiers = .ok modifiers)
    (hdelimiters : r.delimiters record = .ok pair)
    (hregex : r.dialect.compile record.regex (.ofModifiers modifiers) = .ok matcher)
    (htemplate : Template.parse record.replacementText = .ok template) :
    ∃ p, r.compile record = .ok p ∧ p.id = record.id :=
  ⟨_, compile_passed hmodifiers hdelimiters hregex htemplate, rfl⟩

theorem compile_matcher {p : CompiledPattern} (h : r.compile record = .ok p) :
    r.dialect.compile record.regex (.ofModifiers p.modifiers) = .ok p.matcher := by
  simp only [compile, bind_eq_ok, mapError_eq_ok] at h
  obtain ⟨modifiers, -, pair, -, matcher, hmatcher, template, -, hp⟩ := h
  obtain rfl := Except.ok.inj hp
  exact hmatcher

/-- The first check that a record does not pass, if there is one. -/
inductive CompileCase (r : Runner) (record : PatternRecord) : Prop where
  | modifiers {e : ValidationError}
      (hmodifiers : r.capabilities.validateModifiers record.modifiers = .error e)
  | delimiters {modifiers : List Char} {e : ValidationError}
      (hmodifiers : r.capabilities.validateModifiers record.modifiers = .ok modifiers)
      (hdelimiters : r.delimiters record = .error e)
  | regex {modifiers : List Char} {pair : DelimiterPair} {d : Diagnostic}
      (hmodifiers : r.capabilities.validateModifiers record.modifiers = .ok modifiers)
      (hdelimiters : r.delimiters record = .ok pair)
      (hregex : r.dialect.compile record.regex (.ofModifiers modifiers) = .error d)
  | template {modifiers : List Char} {pair : DelimiterPair} {matcher : Matcher} {t : TemplateError}
      (hmodifiers : r.capabilities.validateModifiers record.modifiers = .ok modifiers)
      (hdelimiters : r.delimiters record = .ok pair)
      (hregex : r.dialect.compile record.regex (.ofModifiers modifiers) = .ok matcher)
      (htemplate : Template.parse record.replacementText = .error t)
  | usable {modifiers : List Char} {pair : DelimiterPair} {matcher : Matcher} {template : Template}
      (hmodifiers : r.capabilities.validateModifiers record.modifiers = .ok modifiers)
      (hdelimiters : r.delimiters record = .ok pair)
      (hregex : r.dialect.compile record.regex (.ofModifiers modifiers) = .ok matcher)
      (htemplate : Template.parse record.replacementText = .ok template)

theorem compileCase (r : Runner) (record : PatternRecord) : CompileCase r record := by
  cases hmodifiers : r.capabilities.validateModifiers record.modifiers with
  | error e => exact .modifiers hmodifiers
  | ok modifiers =>
    cases hdelimiters : r.delimiters record with
    | error e => exact .delimiters hmodifiers hdelimiters
    | ok pair =>
      cases hregex : r.dialect.compile record.regex (.ofModifiers modifiers) with
      | error d => exact .regex hmodifiers hdelimiters hregex
      | ok matcher =>
        cases htemplate : Template.parse record.replacementText with
        | error t => exact .template hmodifiers hdelimiters hregex htemplate
        | ok template => exact .usable hmodifiers hdelimiters hregex htemplate

end Runner

end RegexGateway
