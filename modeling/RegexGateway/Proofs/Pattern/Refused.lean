import RegexGateway.Dialect.Available
import RegexGateway.Proofs.Table.Delimiters
import RegexGateway.Proofs.Table.Modifiers
import RegexGateway.Proofs.Text.Bytes

namespace RegexGateway

namespace Diagnostic

variable {d : Diagnostic} {pattern : List Char}

/-- A place that is given lies in the pattern or at its end, and a character that is blamed along
with it stands there. -/
def PointsInto (d : Diagnostic) (pattern : List Char) : Prop :=
  ∀ place ∈ d.offset, place ≤ pattern.length ∧ ∀ c ∈ d.badCharacter, pattern[place]? = some c

theorem new_pointsInto (message : String) (pattern : List Char) :
    (new message).PointsInto pattern := nofun

theorem unsupported_pointsInto (modifier : Char) (what dialect : String) (pattern : List Char) :
    (unsupported modifier what dialect).PointsInto pattern := nofun

theorem PointsInto.withMessage (h : d.PointsInto pattern) (message : String) :
    (d.withMessage message).PointsInto pattern := h

theorem atByte_pointsInto (d : Diagnostic) (pattern : List Char) (byte : Nat) :
    (d.atByte pattern byte).PointsInto pattern := by
  intro place hplace
  obtain rfl : Text.charIndex pattern byte = place := Option.some.inj hplace
  constructor
  · exact Text.charIndex_le_length pattern byte
  · intro c hc
    simp only [atByte, Option.mem_def] at hc
    split at hc
    · rwa [Text.dropBytes, List.head?_drop] at hc
    · contradiction

end Diagnostic

theorem Regex.CompileError.diagnostic_pointsInto (e : CompileError) (pattern : List Char) :
    (e.diagnostic pattern).PointsInto pattern := by
  cases e with
  | refused e => exact (Diagnostic.atByte_pointsInto _ pattern _).withMessage _
  | tooLarge => exact (Diagnostic.new_pointsInto _ pattern).withMessage _

namespace Dialect

variable {pattern : List Char} {flags : FlagSet} {d : Diagnostic}

theorem standard_pointsInto (h : standard.compile pattern flags = .error d) :
    d.PointsInto pattern := by
  simp only [standard] at h
  split at h
  · obtain rfl := Except.error.inj h
    exact Diagnostic.unsupported_pointsInto _ _ _ pattern
  · split at h
    · contradiction
    · obtain rfl := Except.error.inj h
      exact Regex.CompileError.diagnostic_pointsInto _ pattern

/-- Positions are counted from the start of the flags in front of the pattern, and what is left of
one without them is a byte of the pattern or past its end. -/
theorem fancy_pointsInto (h : fancy.compile pattern flags = .error d) : d.PointsInto pattern := by
  simp only [fancy] at h
  split at h
  · obtain rfl := Except.error.inj h
    exact Diagnostic.unsupported_pointsInto _ _ _ pattern
  · split at h
    · contradiction
    · split at h
      · obtain rfl := Except.error.inj h
        exact (Diagnostic.atByte_pointsInto _ pattern _).withMessage _
      · obtain rfl := Except.error.inj h
        exact Diagnostic.new_pointsInto _ pattern

end Dialect

namespace Runner

variable {r : Runner} {record : PatternRecord} {e : PatternError}

/-- What a record needs to make a pattern. -/
structure Usable (r : Runner) (record : PatternRecord) : Prop where
  modifiers : ∀ c ∈ record.modifiers, c ∈ r.capabilities.allowedModifiers
  delimiters : r.capabilities.delimiterRequired →
    r.opening record ∈ r.capabilities.allowedDelimiters
  regex : ∃ matcher, r.dialect.compile record.regex (.ofModifiers record.modifiers) = .ok matcher
  template : ∃ template, Template.parse record.replacementText = .ok template

/-- The error of the first thing that a record lacks. -/
inductive FirstFault (r : Runner) (record : PatternRecord) : PatternError → Prop where
  | modifiers {cleaned invalid : List Char}
      (hsplits : r.capabilities.Splits record.modifiers cleaned invalid) (hsome : invalid ≠ []) :
      FirstFault r record ((ValidationError.modifier r.capabilities.label invalid
        r.capabilities.allowedModifiers cleaned).toPatternError record.id)
  | delimiters (hmodifiers : ∀ c ∈ record.modifiers, c ∈ r.capabilities.allowedModifiers)
      (hrequired : r.capabilities.delimiterRequired)
      (hdenied : r.opening record ∉ r.capabilities.allowedDelimiters) :
      FirstFault r record ((ValidationError.delimiter (r.opening record)
        r.capabilities.allowedDelimiters r.capabilities.defaults.delimiters).toPatternError
          record.id)
  | regex {d : Diagnostic}
      (hmodifiers : ∀ c ∈ record.modifiers, c ∈ r.capabilities.allowedModifiers)
      (hdelimiters : r.capabilities.delimiterRequired →
        r.opening record ∈ r.capabilities.allowedDelimiters)
      (hregex : r.dialect.compile record.regex (.ofModifiers record.modifiers) = .error d) :
      FirstFault r record (d.toPatternError record.id)
  | template {matcher : Matcher} {t : TemplateError}
      (hmodifiers : ∀ c ∈ record.modifiers, c ∈ r.capabilities.allowedModifiers)
      (hdelimiters : r.capabilities.delimiterRequired →
        r.opening record ∈ r.capabilities.allowedDelimiters)
      (hregex : r.dialect.compile record.regex (.ofModifiers record.modifiers) = .ok matcher)
      (htemplate : Template.parse record.replacementText = .error t) :
      FirstFault r record (t.toPatternError record.id)

theorem validateModifiers_of_forall
    (h : ∀ c ∈ record.modifiers, c ∈ r.capabilities.allowedModifiers) :
    ∃ modifiers, r.capabilities.validateModifiers record.modifiers = .ok modifiers ∧
      FlagSet.ofModifiers modifiers = .ofModifiers record.modifiers :=
  ⟨_, Capabilities.validateModifiers_eq_ok.2 ⟨h, rfl⟩, FlagSet.ofModifiers_distinct _⟩

theorem exists_compile_of_usable (h : r.Usable record) : ∃ p, r.compile record = .ok p := by
  -- The dialect is asked under the flags of each modifier once, which are the flags of all.
  obtain ⟨modifiers, hmodifiers, hflags⟩ := validateModifiers_of_forall h.modifiers
  obtain ⟨pair, hpair⟩ := takes_delimiters.2 h.delimiters
  obtain ⟨matcher, hmatcher⟩ := h.regex
  obtain ⟨template, htemplate⟩ := h.template
  rw [← hflags] at hmatcher
  exact ⟨_, compile_passed hmodifiers hpair hmatcher htemplate⟩

theorem compile_of_firstFault (h : r.FirstFault record e) : r.compile record = .error e := by
  cases h with
  | modifiers hsplits hsome =>
    exact compile_modifiers
      (Capabilities.validateModifiers_refuses.2 ⟨_, _, hsplits, hsome, rfl⟩)
  | delimiters hmodifiers hrequired hdenied =>
    obtain ⟨modifiers, hmodifiers, -⟩ := validateModifiers_of_forall hmodifiers
    exact compile_delimiters hmodifiers (delimiters_eq_error.2 ⟨hrequired, hdenied, rfl⟩)
  | regex hmodifiers hdelimiters hregex =>
    obtain ⟨modifiers, hmodifiers, hflags⟩ := validateModifiers_of_forall hmodifiers
    obtain ⟨pair, hpair⟩ := takes_delimiters.2 hdelimiters
    rw [← hflags] at hregex
    exact compile_regex hmodifiers hpair hregex
  | template hmodifiers hdelimiters hregex htemplate =>
    obtain ⟨modifiers, hmodifiers, hflags⟩ := validateModifiers_of_forall hmodifiers
    obtain ⟨pair, hpair⟩ := takes_delimiters.2 hdelimiters
    rw [← hflags] at hregex
    exact compile_template hmodifiers hpair hregex htemplate

theorem usable_or_firstFault (r : Runner) (record : PatternRecord) :
    r.Usable record ∨ ∃ e, r.FirstFault record e := by
  cases r.compileCase record with
  | modifiers hmodifiers =>
    obtain ⟨_, _, hsplits, hsome, rfl⟩ := Capabilities.validateModifiers_refuses.1 hmodifiers
    exact .inr ⟨_, .modifiers hsplits hsome⟩
  | delimiters hmodifiers hdelimiters =>
    obtain ⟨hallowed, -⟩ := Capabilities.validateModifiers_eq_ok.1 hmodifiers
    obtain ⟨hrequired, hdenied, -⟩ := delimiters_eq_error.1 hdelimiters
    exact .inr ⟨_, .delimiters hallowed hrequired hdenied⟩
  | regex hmodifiers hdelimiters hregex =>
    obtain ⟨hallowed, rfl⟩ := Capabilities.validateModifiers_eq_ok.1 hmodifiers
    rw [FlagSet.ofModifiers_distinct] at hregex
    exact .inr ⟨_, .regex hallowed (takes_delimiters.1 ⟨_, hdelimiters⟩) hregex⟩
  | template hmodifiers hdelimiters hregex htemplate =>
    obtain ⟨hallowed, rfl⟩ := Capabilities.validateModifiers_eq_ok.1 hmodifiers
    rw [FlagSet.ofModifiers_distinct] at hregex
    exact .inr ⟨_, .template hallowed (takes_delimiters.1 ⟨_, hdelimiters⟩) hregex htemplate⟩
  | usable hmodifiers hdelimiters hregex htemplate =>
    obtain ⟨hallowed, rfl⟩ := Capabilities.validateModifiers_eq_ok.1 hmodifiers
    rw [FlagSet.ofModifiers_distinct] at hregex
    exact .inl ⟨hallowed, takes_delimiters.1 ⟨_, hdelimiters⟩, ⟨_, hregex⟩, ⟨_, htemplate⟩⟩

theorem exists_compile_eq_ok : (∃ p, r.compile record = .ok p) ↔ r.Usable record := by
  constructor
  · rintro ⟨p, hp⟩
    cases r.usable_or_firstFault record with
    | inl husable => exact husable
    | inr hfault =>
      obtain ⟨e, he⟩ := hfault
      rw [compile_of_firstFault he] at hp
      contradiction
  · exact exists_compile_of_usable

theorem compile_eq_error : r.compile record = .error e ↔ r.FirstFault record e := by
  constructor
  · intro h
    cases r.usable_or_firstFault record with
    | inl husable =>
      obtain ⟨p, hp⟩ := exists_compile_of_usable husable
      rw [hp] at h
      contradiction
    | inr hfault =>
      obtain ⟨e', he'⟩ := hfault
      obtain rfl := Except.error.inj ((compile_of_firstFault he').symm.trans h)
      exact he'
  · exact compile_of_firstFault

namespace FirstFault

theorem regexId_eq (h : r.FirstFault record e) : e.regexId = record.id := by
  cases h <;> rfl

theorem badModifier {c : Char} (h : r.FirstFault record e)
    (hc : record.modifiers.find? (· ∉ r.capabilities.allowedModifiers) = some c) :
    e.badCharacter = some c := by
  have hmem : c ∈ record.modifiers := List.mem_of_find?_eq_some hc
  have hdenied : c ∉ r.capabilities.allowedModifiers := by simpa using List.find?_some hc
  cases h with
  | modifiers hsplits => exact hsplits.head?_denied.trans hc
  | delimiters hmodifiers | regex hmodifiers | template hmodifiers =>
    exact absurd (hmodifiers c hmem) hdenied

theorem badDelimiter (h : r.FirstFault record e)
    (hmodifiers : ∀ c ∈ record.modifiers, c ∈ r.capabilities.allowedModifiers)
    (hrequired : r.capabilities.delimiterRequired)
    (hdenied : r.opening record ∉ r.capabilities.allowedDelimiters) :
    e.badCharacter = some (r.opening record) := by
  cases h with
  | modifiers hsplits hsome => exact absurd (hsplits.denied_eq_nil.2 hmodifiers) hsome
  | delimiters => rfl
  | regex _ hdelimiters | template _ hdelimiters => exact absurd (hdelimiters hrequired) hdenied

theorem pointsInto (h : r.FirstFault record e)
    (hdialect : r.dialect = .standard ∨ r.dialect = .fancy) :
    e.toDiagnostic.PointsInto record.regex := by
  cases h with
  | regex _ _ hregex =>
    cases hdialect with
    | inl hdialect => exact Dialect.standard_pointsInto (hdialect ▸ hregex)
    | inr hdialect => exact Dialect.fancy_pointsInto (hdialect ▸ hregex)
  | modifiers | delimiters | template => exact nofun

end FirstFault

/-- A record makes a pattern if its modifiers are allowed, its delimiters are if some are required,
the dialect takes its regex under the flags of its modifiers, and its replacement is a template. If
not, the error is that of the first of these that fails, under the number of the record. It blames
the first modifier that is denied, or else the delimiter that is. From a dialect that is there, the
place in it is one in the regex, and the character that it blames stands there. -/
theorem compile_reports (r : Runner) (record : PatternRecord) :
    ((∃ p, r.compile record = .ok p) ↔ r.Usable record) ∧
    (∀ e, r.compile record = .error e ↔ r.FirstFault record e) ∧
    ∀ e, r.compile record = .error e →
      e.regexId = record.id ∧
      (∀ c, record.modifiers.find? (· ∉ r.capabilities.allowedModifiers) = some c →
        e.badCharacter = some c) ∧
      ((∀ c ∈ record.modifiers, c ∈ r.capabilities.allowedModifiers) →
        r.capabilities.delimiterRequired →
        r.opening record ∉ r.capabilities.allowedDelimiters →
        e.badCharacter = some (r.opening record)) ∧
      (r.dialect = .standard ∨ r.dialect = .fancy →
        ∀ place, e.offset = some place → place ≤ record.regex.length ∧
          ∀ c, e.badCharacter = some c → record.regex[place]? = some c) := by
  refine ⟨exists_compile_eq_ok, fun _ => compile_eq_error, ?_⟩
  intro e he
  have hfault := compile_eq_error.1 he
  exact ⟨hfault.regexId_eq, fun _ => hfault.badModifier, hfault.badDelimiter, hfault.pointsInto⟩

def pcreBetweenSlashes : Runner := ⟨Capabilities.draft .pcre, ⟨.symmetric '/', []⟩, .fancy⟩

theorem compile_reports_pcre :
    (∃ e, pcreBetweenSlashes.compile ⟨7, "é(?@a)".toList, "im".toList, none, [], false⟩ =
      .error e ∧ e.regexId = 7 ∧ e.offset = some 3 ∧ "é(?@a)".toList[3]? = e.badCharacter) ∧
    (∃ e, pcreBetweenSlashes.compile ⟨8, "a".toList, "iQ".toList, none, [], false⟩ = .error e ∧
      e.badCharacter = some 'Q') ∧
    ∃ e, pcreBetweenSlashes.compile ⟨9, "a".toList, [], some (.symmetric 'é'), [], false⟩ =
      .error e ∧ e.badCharacter = some 'é' := by
  refine ⟨?group, ?modifier, ?delimiter⟩
  case group =>
    have hplace : ((pcreBetweenSlashes.compile
        ⟨7, "é(?@a)".toList, "im".toList, none, [], false⟩).mapError fun e =>
          (e.offset, e.badCharacter)).map (fun _ => ()) = .error (some 3, some '@') := by
      decide +kernel
    obtain ⟨-, -, hreported⟩ := compile_reports pcreBetweenSlashes
      ⟨7, "é(?@a)".toList, "im".toList, none, [], false⟩
    generalize pcreBetweenSlashes.compile _ = attempt at hplace hreported
    cases attempt with
    | ok p => simp [Except.map, Except.mapError] at hplace
    | error e =>
      obtain ⟨hoffset, hbad⟩ : e.offset = some 3 ∧ e.badCharacter = some '@' := by
        simpa [Except.map, Except.mapError] using hplace
      obtain ⟨hid, -, -, hregex⟩ := hreported e rfl
      obtain ⟨-, hchar⟩ := hregex (.inr rfl) 3 hoffset
      exact ⟨e, rfl, hid, hoffset, (hchar _ hbad).trans hbad.symm⟩
  case modifier =>
    obtain ⟨husable, -, hreported⟩ := compile_reports pcreBetweenSlashes
      ⟨8, "a".toList, "iQ".toList, none, [], false⟩
    generalize pcreBetweenSlashes.compile _ = attempt at husable hreported
    cases attempt with
    | ok p => exact absurd ((husable.1 ⟨p, rfl⟩).modifiers 'Q' (by decide)) (by decide)
    | error e =>
      obtain ⟨-, hmodifier, -⟩ := hreported e rfl
      exact ⟨e, rfl, hmodifier 'Q' (by decide)⟩
  case delimiter =>
    obtain ⟨husable, -, hreported⟩ := compile_reports pcreBetweenSlashes
      ⟨9, "a".toList, [], some (.symmetric 'é'), [], false⟩
    generalize pcreBetweenSlashes.compile _ = attempt at husable hreported
    cases attempt with
    | ok p => exact absurd ((husable.1 ⟨p, rfl⟩).delimiters rfl) (by decide)
    | error e =>
      obtain ⟨-, -, hdelimiter, -⟩ := hreported e rfl
      exact ⟨e, rfl, hdelimiter nofun rfl (by decide)⟩

end Runner

end RegexGateway
