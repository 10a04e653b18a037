import RegexGateway.Dialect.Standard
import RegexGateway.Proofs.Batch.Exchange
import RegexGateway.Proofs.Pattern.Replace
import RegexGateway.Proofs.Table.Capabilities
import RegexGateway.Proofs.Table.Refusal
import RegexGateway.Table.Builtin

namespace RegexGateway

namespace FlagSet

/-- A letter that switches no flag, wherever it stands. -/
def Ignores (c : Char) : Prop :=
  ∀ before after, ofModifiers (before ++ c :: after) = ofModifiers (before ++ after)

def letters : List Char := ['i', 'm', 's', 'x', 'U', 'u', 'J', 'A', 'D']

theorem ignores_iff {c : Char} : Ignores c ↔ c ∉ letters := by
  constructor
  · intro h
    have hnone : ofModifiers [c] = ofModifiers [] := h [] []
    simpa [ofModifiers, letters, eq_comm (b := c)] using hnone
  · intro hc before after
    simp only [letters, List.mem_cons, List.not_mem_nil, or_false, not_or] at hc
    simp [ofModifiers, hc, eq_comm (b := c)]

end FlagSet

theorem EngineSpec.globalModifier_ignored :
    ∀ spec ∈ [EngineSpec.standard, .fancy, .pcre], ∀ c ∈ spec.globalModifier,
      FlagSet.Ignores c := by
  simp [EngineSpec.standard, EngineSpec.fancy, EngineSpec.pcre, FlagSet.ignores_iff,
    FlagSet.letters]

namespace CompiledPattern

def askAll (p : CompiledPattern) (modifiers : List Char) : CompiledPattern :=
  { p with scanMode := .all, modifiers }

variable {p : CompiledPattern} {modifiers text : List Char}

theorem askAll_replaceAll : (p.askAll modifiers).replaceAll = p.replaceAll := rfl

theorem askAll_execute (p : CompiledPattern) (modifiers : List Char) :
    (p.askAll modifiers).execute = p.findAll.execute := rfl

theorem execute_of_findAll {shown : List Occurrence} (h : p.findAll.execute text = .ok shown) :
    p.execute text = .ok (if p.scanMode = .all then shown else shown.take 1) := by
  obtain ⟨all, hall, hcuts, rfl⟩ := execute_eq_ok.1 h
  have hall : p.scan .all text = .ok all := hall
  apply execute_eq_ok.2
  cases hmode : p.scanMode with
  | all => exact ⟨all, hall, hcuts, by simp [findAll]⟩
  | first =>
    have hfirst : p.scan .first text = .ok (all.take 1) :=
      scan_eq_ok.2 (by simpa using Matcher.scan_take_one (scan_eq_ok.1 hall))
    exact ⟨all.take 1, hfirst, fun m hm => hcuts m (List.mem_of_mem_take hm),
      by simp [findAll, Match.occurrences_take_one]⟩

end CompiledPattern

/-- One record is the other with a modifier added, wherever in its modifiers. -/
def PatternRecord.Adds (c : Char) (record record' : PatternRecord) : Prop :=
  ∃ before after, record.modifiers = before ++ after ∧
    record' = { record with modifiers := before ++ c :: after }

section

variable {c : Char} {record record' : PatternRecord}

theorem PatternRecord.Adds.mem_modifiers (h : record.Adds c record') {d : Char} :
    d ∈ record'.modifiers ↔ d = c ∨ d ∈ record.modifiers := by
  obtain ⟨before, after, hmodifiers, rfl⟩ := h
  simp only [hmodifiers, List.mem_append, List.mem_cons]
  exact or_left_comm

theorem PatternRecord.Adds.filter_modifiers (h : record.Adds c record') {keep : Char → Bool}
    (hc : keep c = false) : record'.modifiers.filter keep = record.modifiers.filter keep := by
  obtain ⟨before, after, hmodifiers, rfl⟩ := h
  simp [hmodifiers, hc]

theorem PatternRecord.Adds.flags (h : record.Adds c record') (hflag : FlagSet.Ignores c) :
    FlagSet.ofModifiers (distinct record'.modifiers) =
      FlagSet.ofModifiers (distinct record.modifiers) := by
  obtain ⟨before, after, hmodifiers, rfl⟩ := h
  rw [FlagSet.ofModifiers_distinct, FlagSet.ofModifiers_distinct, hflag, hmodifiers]

end

namespace Runner

/-- Two records, one of them with a modifier added, get the same answer to whether they can be used:
both can, or both cannot and have the same error. But what is offered in the place of modifiers that
are refused may hold the modifier that was added. -/
inductive SameVerdict (r : Runner) (c : Char) (record record' : PatternRecord) : Prop where
  | usable {p : CompiledPattern} {modifiers : List Char} (h : r.compile record = .ok p)
      (h' : r.compile record' = .ok (p.askAll modifiers))
  | refused {invalid cleaned cleaned' : List Char}
      (h : r.compile record = .error ((ValidationError.modifier r.capabilities.label invalid
        r.capabilities.allowedModifiers cleaned).toPatternError record.id))
      (h' : r.compile record' = .error ((ValidationError.modifier r.capabilities.label invalid
        r.capabilities.allowedModifiers cleaned').toPatternError record.id))
      (hcleaned : cleaned'.filter (· ≠ c) = cleaned.filter (· ≠ c))
  | faulty {e : PatternError} (h : r.compile record = .error e) (h' : r.compile record' = .error e)

variable {r : Runner} {c : Char} {record record' : PatternRecord}

theorem validateModifiers_adds (hallowed : c ∈ r.capabilities.allowedModifiers)
    (hadds : record.Adds c record') {modifiers : List Char}
    (h : r.capabilities.validateModifiers record.modifiers = .ok modifiers) :
    modifiers = distinct record.modifiers ∧
      r.capabilities.validateModifiers record'.modifiers = .ok (distinct record'.modifiers) := by
  obtain ⟨hmodifiers, rfl⟩ := Capabilities.validateModifiers_eq_ok.1 h
  refine ⟨rfl, Capabilities.validateModifiers_eq_ok.2 ⟨?_, rfl⟩⟩
  intro d hd
  rcases hadds.mem_modifiers.1 hd with rfl | hd
  · exact hallowed
  · exact hmodifiers d hd

theorem scanMode_global (hglobal : r.capabilities.globalModifier = some c) {modifiers : List Char} :
    r.capabilities.scanMode modifiers = if c ∈ modifiers then .all else .first := by
  simp only [Capabilities.scanMode, hglobal]

theorem sameVerdict_of_adds (hglobal : r.capabilities.globalModifier = some c)
    (hallowed : c ∈ r.capabilities.allowedModifiers) (hflag : FlagSet.Ignores c)
    (hadds : record.Adds c record') : r.SameVerdict c record record' := by
  have hmem : ∀ d ∈ record.modifiers, d ∈ record'.modifiers :=
    fun d hd => hadds.mem_modifiers.2 (.inr hd)
  have hasks : c ∈ record'.modifiers := hadds.mem_modifiers.2 (.inl rfl)
  have hinvalid : record'.modifiers.filter (· ∉ r.capabilities.allowedModifiers) =
      record.modifiers.filter (· ∉ r.capabilities.allowedModifiers) :=
    hadds.filter_modifiers (by simpa using hallowed)
  have hcleaned : (distinct (record'.modifiers.filter
      (· ∈ r.capabilities.allowedModifiers))).filter (· ≠ c) =
      (distinct (record.modifiers.filter (· ∈ r.capabilities.allowedModifiers))).filter
        (· ≠ c) := by
    rw [filter_distinct, filter_distinct, List.filter_filter, List.filter_filter,
      hadds.filter_modifiers (by simp)]
  have hvalid : ∀ modifiers, r.capabilities.validateModifiers record.modifiers = .ok modifiers →
      modifiers = distinct record.modifiers ∧
        r.capabilities.validateModifiers record'.modifiers = .ok (distinct record'.modifiers) :=
    fun _ => validateModifiers_adds hallowed hadds
  have hflags := hadds.flags hflag
  obtain ⟨before, after, -, rfl⟩ := hadds
  have hmatcher : r.dialect.compile record.regex (.ofModifiers (distinct (before ++ c :: after))) =
      r.dialect.compile record.regex (.ofModifiers (distinct record.modifiers)) := by
    rw [hflags]
  cases r.compileCase record with
  | modifiers hrefused =>
    obtain ⟨⟨d, hd, hdenied⟩, rfl⟩ := Capabilities.validateModifiers_eq_error.1 hrefused
    have hrefused' := Capabilities.validateModifiers_eq_error.2
      ⟨⟨d, hmem d hd, hdenied⟩, rfl⟩
    rw [hinvalid] at hrefused'
    exact .refused (compile_modifiers hrefused) (compile_modifiers hrefused') hcleaned
  | delimiters hok hdelimiters =>
    obtain ⟨rfl, hok'⟩ := hvalid _ hok
    exact .faulty (compile_delimiters hok hdelimiters) (compile_delimiters hok' hdelimiters)
  | regex hok hdelimiters hregex =>
    obtain ⟨rfl, hok'⟩ := hvalid _ hok
    exact .faulty (compile_regex hok hdelimiters hregex)
      (compile_regex hok' hdelimiters (hmatcher.trans hregex))
  | template hok hdelimiters hregex htemplate =>
    obtain ⟨rfl, hok'⟩ := hvalid _ hok
    exact .faulty (compile_template hok hdelimiters hregex htemplate)
      (compile_template hok' hdelimiters (hmatcher.trans hregex) htemplate)
  | usable hok hdelimiters hregex htemplate =>
    obtain ⟨rfl, hok'⟩ := hvalid _ hok
    have hasked := compile_passed hok' hdelimiters (hmatcher.trans hregex) htemplate
    rw [scanMode_global hglobal, if_pos (mem_distinct.2 hasks), hflags] at hasked
    exact .usable (compile_passed hok hdelimiters hregex htemplate) hasked

theorem compile_scanMode (hglobal : r.capabilities.globalModifier = some c) {p : CompiledPattern}
    (h : r.compile record = .ok p) : p.scanMode = if c ∈ record.modifiers then .all else .first := by
  simp only [compile, bind_eq_ok, mapError_eq_ok] at h
  obtain ⟨modifiers, hmodifiers, pair, -, matcher, -, template, -, hp⟩ := h
  obtain ⟨-, rfl⟩ := Capabilities.validateModifiers_eq_ok.1 hmodifiers
  obtain rfl := Except.ok.inj hp
  simp only [scanMode_global hglobal, mem_distinct]

theorem SameVerdict.rewrite (h : r.SameVerdict c record record') :
    Attempt.rewrite (r.compile record') = Attempt.rewrite (r.compile record) := by
  cases h with
  | usable h h' =>
    rw [h, h']
    exact CompiledPattern.askAll_replaceAll
  | refused h h' _ =>
    rw [h, h']
    rfl
  | faulty h h' => rw [h, h']

/-- The cells of a record in one text, as it is and with the modifier that asks for every match. -/
structure ShowsFirst (r : Runner) (c : Char) (record record' : PatternRecord)
    (cell cell' : PatternOutcome) : Prop where
  regexId : cell'.regexId = cell.regexId
  validity : cell.validity = .ofResult (r.compile record)
  validity_asked : cell'.validity = .ofResult (r.compile record')
  first : c ∉ record.modifiers → cell.occurrences = cell'.occurrences.take 1
  same : c ∈ record.modifiers → cell.occurrences = cell'.occurrences

theorem ShowsFirst.of_errors {e e' : PatternError} (h : r.compile record = .error e)
    (h' : r.compile record' = .error e') (hid : e'.regexId = e.regexId) :
    r.ShowsFirst c record record' (.ofError e) (.ofError e') where
  regexId := hid
  validity := by rw [h]; rfl
  validity_asked := by rw [h']; rfl
  first _ := rfl
  same _ := rfl

variable {config : MatchConfig} {text : List Char}

theorem SameVerdict.cell_isOk (h : r.SameVerdict c record record') :
    (∃ cell', Batch.outcomes config [r.compile record'] text = .ok [cell']) ↔
      ∀ p, r.compile record = .ok p → ∃ shown, p.findAll.execute text = .ok shown := by
  cases h with
  | @usable p modifiers h h' =>
    simp only [h, h', Batch.outcomes_ok_alone, Except.ok.injEq, forall_eq',
      ← CompiledPattern.askAll_execute p modifiers]
    constructor
    · rintro ⟨cell', shown, hshown, -⟩
      exact ⟨shown, hshown⟩
    · rintro ⟨shown, hshown⟩
      exact ⟨_, shown, hshown, rfl⟩
  | refused h h' _ => simp [h, h', Batch.outcomes_error_alone]
  | faulty h h' => simp [h, h', Batch.outcomes_error_alone]

theorem SameVerdict.cell (h : r.SameVerdict c record record')
    (hglobal : r.capabilities.globalModifier = some c) {cell' : PatternOutcome}
    (hcell' : Batch.outcomes config [r.compile record'] text = .ok [cell']) :
    ∃ cell, Batch.outcomes config [r.compile record] text = .ok [cell] ∧
      r.ShowsFirst c record record' cell cell' := by
  cases h with
  | @usable p modifiers h h' =>
    rw [h'] at hcell'
    obtain ⟨shown, hshown, rfl⟩ := Batch.outcomes_ok_alone.1 hcell'
    have hexecute := p.execute_of_findAll hshown
    have hmode := compile_scanMode hglobal h
    rw [h]
    refine ⟨_, Batch.outcomes_ok_alone.2 ⟨_, hexecute, rfl⟩, rfl, by rw [h]; rfl, by rw [h']; rfl,
      ?_, ?_⟩
    · intro hc
      simp [PatternOutcome.ofOccurrences, hmode, hc]
    · intro hc
      simp [PatternOutcome.ofOccurrences, hmode, hc]
  | refused h h' _ =>
    rw [h'] at hcell'
    obtain rfl := Batch.outcomes_error_alone.1 hcell'
    exact ⟨_, by rw [h, Batch.outcomes_error_alone], .of_errors h h' rfl⟩
  | faulty h h' =>
    rw [h'] at hcell'
    obtain rfl := Batch.outcomes_error_alone.1 hcell'
    exact ⟨_, by rw [h, Batch.outcomes_error_alone], .of_errors h h' rfl⟩

/-- The entries of a sample in two runs, in the second of which the record at `k` asks for every
match. -/
structure Reports (r : Runner) (c : Char) (k : Nat) (record record' : PatternRecord)
    (entry entry' : SampleMatches) : Prop where
  sampleId : entry'.sampleId = entry.sampleId
  sample : entry'.sample = entry.sample
  others : ∀ i, i ≠ k → entry'.outcomes[i]? = entry.outcomes[i]?
  own : ∃ cell cell', entry.outcomes[k]? = some cell ∧ entry'.outcomes[k]? = some cell' ∧
    r.ShowsFirst c record record' cell cell'

/-- The modifier that asks for every match limits what is reported and nothing else, if it is no
flag. With and without it a record gets the same verdict, but for what is offered in the place of
modifiers that are refused. It leaves the same replacements and shows the same text to every pattern
behind it, and all other cells are the same. Its own cell has the first of the matches that it has
with it. A run with it succeeds where the one without it does and the record can report all its
matches. -/
theorem globalModifier_reports (r : Runner) (config : MatchConfig) (spec : EngineSpec)
    (htable : Capabilities.ofSpec spec = .ok r.capabilities) (c : Char)
    (hglobal : r.capabilities.globalModifier = some c) (hflag : FlagSet.Ignores c)
    (front back : List PatternRecord) (record record' : PatternRecord)
    (hadds : record.Adds c record') (samples : List (List Char)) :
    r.SameVerdict c record record' ∧
    r.replace (front ++ record' :: back) samples = r.replace (front ++ record :: back) samples ∧
    (∀ j sample text, r.Sees config (front ++ record' :: back) j sample text ↔
      r.Sees config (front ++ record :: back) j sample text) ∧
    ((∃ found', r.matchSamples config (front ++ record' :: back) samples = .ok found') ↔
      (∃ found, r.matchSamples config (front ++ record :: back) samples = .ok found) ∧
      ∀ sample ∈ samples, ∀ text,
        r.Sees config (front ++ record :: back) front.length sample text →
        ∀ p, r.compile record = .ok p → ∃ shown, p.findAll.execute text = .ok shown) ∧
    ∀ found found', r.matchSamples config (front ++ record :: back) samples = .ok found →
      r.matchSamples config (front ++ record' :: back) samples = .ok found' →
      List.Forall₂ (r.Reports c front.length record record') found found' := by
  have hallowed : c ∈ r.capabilities.allowedModifiers := by
    obtain ⟨-, hspec, modifiers, -, -, hcaps⟩ := Capabilities.ofSpec_eq_ok.1 htable
    rw [hcaps] at hglobal ⊢
    exact mem_distinct.2 (hspec c hglobal)
  have hverdict := sameVerdict_of_adds hglobal hallowed hflag hadds
  have hrewrite := hverdict.rewrite
  have hswap : (front.map r.compile ++ r.compile record' :: back.map r.compile).map
      Attempt.rewrite = (front.map r.compile ++ r.compile record :: back.map r.compile).map
      Attempt.rewrite := Batch.map_rewrite_swap hrewrite
  simp only [Runner.replace, Runner.matchSamples, sees_iff, List.map_append, List.map_cons]
  refine ⟨hverdict, Batch.replaceEach_congr hswap samples, ?_, ?_, ?_⟩
  · intro j sample text
    rw [Batch.textAt_congr hswap]
  · have hcell : ∀ text,
        (∃ cell', Batch.outcomes config [r.compile record'] text = .ok [cell']) →
        ∃ cell, Batch.outcomes config [r.compile record] text = .ok [cell] := by
      rintro text ⟨cell', hcell'⟩
      obtain ⟨cell, hcell, -⟩ := hverdict.cell hglobal hcell'
      exact ⟨cell, hcell⟩
    simp only [Batch.matchFrom_isOk_iff, Batch.outcomes_swap_isOk hrewrite hcell,
      List.length_map, hverdict.cell_isOk, forall_and]
  · intro found found' hfound hfound'
    refine Batch.matchFrom_forall₂ ?_ hfound hfound'
    intro id sample cells cells' hcells hcells'
    obtain ⟨hothers, text, cell, cell', hcell, hcell', halone, halone'⟩ :=
      Batch.outcomes_swap_cells hrewrite hcells hcells'
    rw [List.length_map] at hothers hcell hcell'
    obtain ⟨own, hown, hshows⟩ := hverdict.cell hglobal halone'
    obtain rfl : cell = own := by simpa [halone] using hown
    exact ⟨rfl, rfl, hothers, cell, cell', hcell, hcell', hshows⟩

def firstAToB : PatternRecord := ⟨1, ['a'], [], none, ['b'], false⟩

theorem globalModifier_reports_words :
    firstAToB.Adds 'g' aToB ∧ FlagSet.Ignores 'g' ∧
    ∃ entry entry',
      words.matchSamples Capabilities.words.config [firstAToB, findB] [['a', 'a']] = .ok [entry] ∧
      words.matchSamples Capabilities.words.config [aToB, findB] [['a', 'a']] = .ok [entry'] ∧
      words.Reports 'g' 0 firstAToB aToB entry entry' ∧
      entry.outcomes.map (·.occurrences.length) = [1, 2] ∧
      entry'.outcomes.map (·.occurrences.length) = [2, 2] := by
  have hadds : firstAToB.Adds 'g' aToB := ⟨[], [], rfl, rfl⟩
  have hflag : FlagSet.Ignores 'g' := FlagSet.ignores_iff.2 (by decide)
  obtain ⟨-, -, -, -, hreports⟩ := words.globalModifier_reports Capabilities.words.config .words
    Capabilities.ofSpec_words 'g' rfl hflag [] [findB] firstAToB aToB hadds [['a', 'a']]
  have hrun : ∃ entry, words.matchSamples Capabilities.words.config [firstAToB, findB]
      [['a', 'a']] = .ok [entry] ∧ entry.outcomes.map (·.occurrences.length) = [1, 2] :=
    ⟨_, rfl, rfl⟩
  have hrun' : ∃ entry, words.matchSamples Capabilities.words.config [aToB, findB]
      [['a', 'a']] = .ok [entry] ∧ entry.outcomes.map (·.occurrences.length) = [2, 2] :=
    ⟨_, rfl, rfl⟩
  obtain ⟨entry, hentry, hcounts⟩ := hrun
  obtain ⟨entry', hentry', hcounts'⟩ := hrun'
  cases hreports [entry] [entry'] hentry hentry' with
  | cons hfirst _ =>
    exact ⟨hadds, hflag, entry, entry', hentry, hentry', hfirst, hcounts, hcounts'⟩

def refusedQ : PatternRecord := ⟨1, ['a'], ['q'], none, [], false⟩

/-- In the built-in engine for the standard dialect, the modifier that asks for every match changes
the error of a record: it is offered in the place of another one that is refused. -/
theorem globalModifier_offered :
    ∃ caps e e', Capabilities.ofSpec .standard = .ok caps ∧ caps.globalModifier = some 'g' ∧
      FlagSet.Ignores 'g' ∧ refusedQ.Adds 'g' { refusedQ with modifiers := ['g', 'q'] } ∧
      Runner.compile ⟨caps, caps.defaults, .standard⟩ refusedQ = .error e ∧
      Runner.compile ⟨caps, caps.defaults, .standard⟩
        { refusedQ with modifiers := ['g', 'q'] } = .error e' ∧ e ≠ e' := by
  have hflag := EngineSpec.globalModifier_ignored .standard (by simp) 'g' rfl
  exact ⟨_, _, _, rfl, rfl, hflag, ⟨[], ['q'], rfl, rfl⟩, rfl, rfl, by decide⟩

end Runner

end RegexGateway
