import RegexGateway.Proofs.Engine.Loopback

namespace RegexGateway

variable {σ : Type}

/-- What a cell says of its pattern, in the words of a test. -/
def PatternOutcome.verdict (o : PatternOutcome) : TestOutcome := .new o.regexId o.validity

def Attempt.verdict (a : Attempt) : TestOutcome := .new a.regexId (.ofResult a)

namespace Batch

variable {config : MatchConfig} {attempts : List Attempt}

theorem outcomes_verdict {text : List Char} {cells : List PatternOutcome}
    (h : outcomes config attempts text = .ok cells) :
    cells.map (·.verdict) = attempts.map Attempt.verdict := by
  induction attempts generalizing text cells with
  | nil =>
    obtain rfl : [] = cells := by simpa [outcomes] using h
    rfl
  | cons attempt rest ih =>
    cases attempt with
    | error e =>
      obtain ⟨more, hmore, rfl⟩ := outcomes_error_cons.1 h
      exact congrArg (TestOutcome.new e.regexId (.invalid e) :: ·) (ih hmore)
    | ok p =>
      obtain ⟨found, -, next, -, more, hmore, rfl⟩ := outcomes_ok_cons.1 h
      exact congrArg (TestOutcome.new p.id .valid :: ·) (ih hmore)

theorem matchFrom_verdict {id : Nat} {samples : List (List Char)} {found : List SampleMatches}
    (h : matchFrom config attempts id samples = .ok found) :
    ∀ entry ∈ found, entry.outcomes.map (·.verdict) = attempts.map Attempt.verdict := by
  induction samples generalizing id found with
  | nil =>
    obtain rfl : [] = found := by simpa [matchFrom] using h
    simp
  | cons sample rest ih =>
    obtain ⟨entry, hentry, more, hmore, rfl⟩ := matchFrom_cons.1 h
    obtain ⟨cells, hcells, rfl⟩ := matchSample_eq_ok.1 hentry
    exact List.forall_mem_cons.2 ⟨outcomes_verdict hcells, ih hmore⟩

end Batch

theorem Runner.matchSamples_verdict {r : Runner} {config : MatchConfig}
    {patterns : List PatternRecord} {samples : List (List Char)} {found : List SampleMatches}
    (h : r.matchSamples config patterns samples = .ok found) :
    ∀ entry ∈ found, entry.outcomes.map (·.verdict) =
      patterns.map fun record => Attempt.verdict (r.compile record) := by
  have hverdict := Batch.matchFrom_verdict h
  rwa [List.map_map] at hverdict

theorem SampleMatches.Agrees.verdict {s s' : SampleMatches} (h : s.Agrees s') :
    s'.outcomes.map (·.verdict) = s.outcomes.map (·.verdict) := by
  obtain ⟨-, -, houtcomes⟩ := h
  generalize s.outcomes = outcomes at houtcomes
  generalize s'.outcomes = outcomes' at houtcomes
  induction houtcomes with
  | nil => rfl
  | @cons o o' _ _ ho _ ih =>
    have hhead : o'.verdict = o.verdict := by
      rw [PatternOutcome.verdict, PatternOutcome.verdict, ho.regexId, ho.validity]
    rw [List.map_cons, List.map_cons, hhead, ih]

theorem SampleMatches.forall_verdict {found found' : List SampleMatches}
    (h : List.Forall₂ Agrees found found') {verdicts : List TestOutcome}
    (hfound : ∀ entry ∈ found, entry.outcomes.map (·.verdict) = verdicts) :
    ∀ entry ∈ found', entry.outcomes.map (·.verdict) = verdicts := by
  induction h with
  | nil => simp
  | cons hentry _ ih =>
    obtain ⟨hfirst, hrest⟩ := List.forall_mem_cons.1 hfound
    exact List.forall_mem_cons.2 ⟨hentry.verdict.trans hfirst, ih hrest⟩

theorem Runner.relabel_verdict (r : Runner) (record : PatternRecord) :
    TestOutcome.new record.id ((Validity.ofResult (r.compile record)).relabel record.id) =
      Attempt.verdict (r.compile record) := by
  have hid := r.compile_regexId record
  cases hattempt : r.compile record with
  | ok p =>
    rw [hattempt] at hid
    simp only [Attempt.verdict, hid]
    rfl
  | error e =>
    rw [hattempt] at hid
    obtain ⟨d, id⟩ := e
    obtain rfl : id = record.id := hid
    rfl

namespace Engine

variable {h : Handler}

theorem testAll_eq {e : Engine σ} {v : PatternRecord → Validity} (patterns : List PatternRecord)
    (hv : ∀ record, e.validity record = pure (v record)) :
    e.testAll patterns =
      pure (patterns.map fun record => .new record.id ((v record).relabel record.id)) := by
  induction patterns with
  | nil => rfl
  | cons record rest ih => simp only [testAll, hv, ih, pure_bind, List.map_cons]

/-- The part of a record that a remote test sends. -/
def sent (s : EngineState) (record : PatternRecord) : PatternRecord :=
  .toTest 0 record.regex record.modifiers (record.delimiters.getD s.defaults.delimiters)

/-- When a remote test of a record says what a run of it says: the record fails before anything that
is not sent matters, or what is sent is usable and so is the replacement. -/
inductive TestTells (h : Handler) (s : EngineState) (record : PatternRecord) : Prop where
  | modifiers {e : ValidationError}
      (hmodifiers : h.capabilities.validateModifiers record.modifiers = .error e)
  | ownDelimiters {e : ValidationError} (hown : record.delimiters ≠ none)
      (hdelimiters : h.runner.delimiters record = .error e)
  | regex {modifiers : List Char} {pair : DelimiterPair} {d : Diagnostic}
      (hmodifiers : h.capabilities.validateModifiers record.modifiers = .ok modifiers)
      (hsent : h.runner.delimiters (sent s record) = .ok pair)
      (hregex : h.dialect.compile record.regex (.ofModifiers modifiers) = .error d)
  | sameError {modifiers : List Char} {e : ValidationError} {d : Diagnostic}
      (hmodifiers : h.capabilities.validateModifiers record.modifiers = .ok modifiers)
      (hsent : h.runner.delimiters (sent s record) = .error e)
      (hregex : h.dialect.compile record.regex (.ofModifiers modifiers) = .error d)
      (heq : e.toPatternError record.id = d.toPatternError record.id)
  | replacement {pair : DelimiterPair} {template : Template}
      (hsent : h.runner.delimiters (sent s record) = .ok pair)
      (htemplate : Template.parse record.replacementText = .ok template)

/-- What a remote test says of a record. -/
def farOutcome (h : Handler) (s : EngineState) (record : PatternRecord) : TestOutcome :=
  .new record.id ((farVerdict h s record).relabel record.id)

section

variable {s : EngineState} {record : PatternRecord} {modifiers : List Char} {pair : DelimiterPair}

theorem farOutcome_of_compile {attempt : Attempt}
    (hcompile : h.runner.compile (sent s record) = attempt) :
    farOutcome h s record = .new record.id ((Validity.ofResult attempt).relabel record.id) := by
  rw [← hcompile]
  rfl

theorem farOutcome_modifiers {e : ValidationError}
    (hmodifiers : h.capabilities.validateModifiers record.modifiers = .error e) :
    farOutcome h s record = .new record.id (.invalid (e.toPatternError record.id)) :=
  farOutcome_of_compile (Runner.compile_modifiers hmodifiers)

theorem farOutcome_delimiters {e : ValidationError}
    (hmodifiers : h.capabilities.validateModifiers record.modifiers = .ok modifiers)
    (hsent : h.runner.delimiters (sent s record) = .error e) :
    farOutcome h s record = .new record.id (.invalid (e.toPatternError record.id)) :=
  farOutcome_of_compile (Runner.compile_delimiters hmodifiers hsent)

theorem farOutcome_regex {d : Diagnostic}
    (hmodifiers : h.capabilities.validateModifiers record.modifiers = .ok modifiers)
    (hsent : h.runner.delimiters (sent s record) = .ok pair)
    (hregex : h.dialect.compile record.regex (.ofModifiers modifiers) = .error d) :
    farOutcome h s record = .new record.id (.invalid (d.toPatternError record.id)) :=
  farOutcome_of_compile (Runner.compile_regex hmodifiers hsent hregex)

/-- No replacement is sent, so a regex that compiles is all that it takes. -/
theorem farOutcome_usable {matcher : Matcher}
    (hmodifiers : h.capabilities.validateModifiers record.modifiers = .ok modifiers)
    (hsent : h.runner.delimiters (sent s record) = .ok pair)
    (hregex : h.dialect.compile record.regex (.ofModifiers modifiers) = .ok matcher) :
    farOutcome h s record = .new record.id .valid := by
  have hcompile : ∃ p, h.runner.compile (sent s record) = .ok p ∧ p.id = 0 :=
    Runner.compile_usable hmodifiers hsent hregex rfl
  obtain ⟨p, hp, -⟩ := hcompile
  exact farOutcome_of_compile hp

theorem sent_delimiters (hown : record.delimiters ≠ none) :
    h.runner.delimiters (sent s record) = h.runner.delimiters record := by
  obtain ⟨pair, hpair⟩ := Option.ne_none_iff_exists'.1 hown
  simp only [Runner.delimiters, sent, PatternRecord.toTest, hpair, Option.getD_some]

theorem invalid_eq_iff {id : Int} {e : PatternError} {a : Attempt} :
    TestOutcome.new id (.invalid e) = Attempt.verdict a ↔ a.regexId = id ∧ a = .error e := by
  cases a <;> simp [TestOutcome.new, Attempt.verdict, Validity.ofResult, eq_comm]

theorem valid_ne_error {id : Int} {e : PatternError} :
    TestOutcome.new id .valid ≠ Attempt.verdict (.error e) := by
  simp [TestOutcome.new, Attempt.verdict, Validity.ofResult]

theorem ValidationError.toPatternError_ne_template {e : ValidationError} {t : TemplateError}
    {id : Int} : e.toPatternError id ≠ t.toPatternError id := by
  intro heq
  have hmessages : 2 = 1 := congrArg (fun e : PatternError => e.messages.length) heq
  omega

/-- Where only the client's default delimiters are refused, nothing but the same error in a run
agrees with that. -/
theorem TestTells.of_sent_error {e : ValidationError}
    (hmodifiers : h.capabilities.validateModifiers record.modifiers = .ok modifiers)
    (hdelimiters : h.runner.delimiters record = .ok pair)
    (hsent : h.runner.delimiters (sent s record) = .error e) (htells : TestTells h s record) :
    ∃ d, h.dialect.compile record.regex (.ofModifiers modifiers) = .error d ∧
      e.toPatternError record.id = d.toPatternError record.id := by
  cases htells with
  | modifiers hmodifiers' => simp [hmodifiers] at hmodifiers'
  | ownDelimiters _ hdelimiters' => simp [hdelimiters] at hdelimiters'
  | regex _ hsent' | replacement hsent' => simp [hsent] at hsent'
  | @sameError modifiers' e' d hmodifiers' hsent' hregex heq =>
    obtain rfl := Except.ok.inj (hmodifiers.symm.trans hmodifiers')
    obtain rfl := Except.error.inj (hsent.symm.trans hsent')
    exact ⟨d, hregex, heq⟩

theorem TestTells.of_template_error {matcher : Matcher} {t : TemplateError}
    (hmodifiers : h.capabilities.validateModifiers record.modifiers = .ok modifiers)
    (hdelimiters : h.runner.delimiters record = .ok pair)
    (hregex : h.dialect.compile record.regex (.ofModifiers modifiers) = .ok matcher)
    (htemplate : Template.parse record.replacementText = .error t) : ¬ TestTells h s record := by
  intro htells
  cases htells with
  | modifiers hmodifiers' => simp [hmodifiers] at hmodifiers'
  | ownDelimiters _ hdelimiters' => simp [hdelimiters] at hdelimiters'
  | regex hmodifiers' _ hregex' | sameError hmodifiers' _ hregex' =>
    obtain rfl := Except.ok.inj (hmodifiers.symm.trans hmodifiers')
    simp [hregex] at hregex'
  | replacement _ htemplate' => simp [htemplate] at htemplate'

theorem farOutcome_eq_iff
    (hdefaults : record.delimiters = none → ∃ pair, h.runner.delimiters record = .ok pair) :
    farOutcome h s record = Attempt.verdict (h.runner.compile record) ↔ TestTells h s record := by
  cases h.runner.compileCase record with
  | modifiers hmodifiers =>
    rw [farOutcome_modifiers hmodifiers, Runner.compile_modifiers hmodifiers]
    exact iff_of_true rfl (.modifiers hmodifiers)
  | @delimiters modifiers e hmodifiers hdelimiters =>
    have hown : record.delimiters ≠ none := by
      intro hnone
      obtain ⟨pair, hpair⟩ := hdefaults hnone
      rw [hdelimiters] at hpair
      contradiction
    have hsent : h.runner.delimiters (sent s record) = .error e :=
      (sent_delimiters hown).trans hdelimiters
    rw [farOutcome_delimiters hmodifiers hsent, Runner.compile_delimiters hmodifiers hdelimiters]
    exact iff_of_true rfl (.ownDelimiters hown hdelimiters)
  | @regex modifiers pair d hmodifiers hdelimiters hregex =>
    rw [Runner.compile_regex hmodifiers hdelimiters hregex]
    cases hsent : h.runner.delimiters (sent s record) with
    | ok pair' =>
      rw [farOutcome_regex hmodifiers hsent hregex]
      exact iff_of_true rfl (.regex hmodifiers hsent hregex)
    | error e =>
      rw [farOutcome_delimiters hmodifiers hsent, invalid_eq_iff]
      constructor
      · rintro ⟨-, herror⟩
        exact .sameError hmodifiers hsent hregex (Except.error.inj herror).symm
      · intro htells
        obtain ⟨d', hregex', heq⟩ := htells.of_sent_error hmodifiers hdelimiters hsent
        obtain rfl := Except.error.inj (hregex.symm.trans hregex')
        exact ⟨rfl, congrArg Except.error heq.symm⟩
  | @template modifiers pair matcher t hmodifiers hdelimiters hregex htemplate =>
    have htells : ¬ TestTells h s record :=
      TestTells.of_template_error hmodifiers hdelimiters hregex htemplate
    rw [Runner.compile_template hmodifiers hdelimiters hregex htemplate]
    cases hsent : h.runner.delimiters (sent s record) with
    | ok pair' =>
      rw [farOutcome_usable hmodifiers hsent hregex]
      exact iff_of_false valid_ne_error htells
    | error e =>
      rw [farOutcome_delimiters hmodifiers hsent, invalid_eq_iff]
      apply iff_of_false _ htells
      rintro ⟨-, herror⟩
      exact ValidationError.toPatternError_ne_template (Except.error.inj herror).symm
  | @usable modifiers pair matcher template hmodifiers hdelimiters hregex htemplate =>
    obtain ⟨p, hp, hid⟩ := Runner.compile_usable hmodifiers hdelimiters hregex htemplate
    rw [hp]
    cases hsent : h.runner.delimiters (sent s record) with
    | ok pair' =>
      rw [farOutcome_usable hmodifiers hsent hregex, ← hid]
      exact iff_of_true rfl (.replacement hsent htemplate)
    | error e =>
      rw [farOutcome_delimiters hmodifiers hsent, invalid_eq_iff]
      constructor
      · rintro ⟨-, herror⟩
        contradiction
      · intro htells
        obtain ⟨d, hregex', -⟩ := htells.of_sent_error hmodifiers hdelimiters hsent
        have hboth := hregex.symm.trans hregex'
        contradiction

end

/-- What a test of all patterns and a run of them say, side by side. The run may fail; else `R`
holds of each record with the outcome of its test and with each of its cells. -/
def Compares (e : Engine σ) (samples : List (List Char)) (patterns : List PatternRecord)
    (chain : Option Bool) (R : PatternRecord → TestOutcome → PatternOutcome → Prop) : Prop :=
  ∃ outcomes, e.testAll patterns = pure outcomes ∧ outcomes.length = patterns.length ∧
    ((∃ error, e.matchSamples samples patterns chain = throw error) ∨
      ∃ found, e.matchSamples samples patterns chain = pure found ∧
        ∀ entry ∈ found, entry.outcomes.length = patterns.length ∧
          ∀ (j : Nat) (record : PatternRecord) (outcome : TestOutcome) (cell : PatternOutcome),
            patterns[j]? = some record → outcomes[j]? = some outcome →
              entry.outcomes[j]? = some cell → R record outcome cell)

theorem compares_of_verdicts {e : Engine σ} {samples : List (List Char)}
    {patterns : List PatternRecord} {chain : Option Bool}
    {R : PatternRecord → TestOutcome → PatternOutcome → Prop}
    (test run : PatternRecord → TestOutcome)
    (htest : e.testAll patterns = pure (patterns.map test))
    (hrun : (∃ error, e.matchSamples samples patterns chain = throw error) ∨
      ∃ found, e.matchSamples samples patterns chain = pure found ∧
        ∀ entry ∈ found, entry.outcomes.map (·.verdict) = patterns.map run)
    (hR : ∀ record ∈ patterns, ∀ cell, cell.verdict = run record → R record (test record) cell) :
    e.Compares samples patterns chain R := by
  refine ⟨patterns.map test, htest, List.length_map _, hrun.imp_right ?_⟩
  rintro ⟨found, hfound, hverdicts⟩
  refine ⟨found, hfound, ?_⟩
  intro entry hentry
  have hverdict := hverdicts entry hentry
  have hlength : entry.outcomes.length = patterns.length := by
    simpa using congrArg List.length hverdict
  refine ⟨hlength, ?_⟩
  intro j record outcome cell hrecord houtcome hcell
  obtain rfl : test record = outcome := by simpa [hrecord] using houtcome
  have hsame : some cell.verdict = some (run record) := by
    simpa [hrecord, hcell] using congrArg (·[j]?) hverdict
  exact hR record (List.mem_of_getElem? hrecord) cell (Option.some.inj hsame)

theorem near_compares (h : Handler) (s : EngineState) (samples : List (List Char))
    (patterns : List PatternRecord) (chain : Option Bool) :
    (near h s : Engine σ).Compares samples patterns chain
      fun _ outcome cell => outcome = cell.verdict := by
  let r := s.runner h.dialect
  let verdict (record : PatternRecord) : TestOutcome := Attempt.verdict (r.compile record)
  have hvalidity : ∀ record, (near h s : Engine σ).validity record =
      pure (.ofResult (r.compile record)) := fun _ => rfl
  have hnear : (near h s : Engine σ).matchSamples samples patterns chain =
      .ofRun (r.matchSamples (s.configFor chain) patterns samples) := rfl
  apply compares_of_verdicts verdict verdict
  · rw [testAll_eq patterns hvalidity]
    exact congrArg pure (List.map_congr_left fun record _ => r.relabel_verdict record)
  · rw [hnear]
    cases hrun : r.matchSamples (s.configFor chain) patterns samples with
    | error fault => exact .inl ⟨.run fault, rfl⟩
    | ok found => exact .inr ⟨found, rfl, Runner.matchSamples_verdict hrun⟩
  · intro record _ cell hcell
    exact hcell.symm

theorem far_compares (hdialect : h.dialect.Portable)
    (hlimits : h.capabilities.config.limits.Portable) {s : EngineState}
    (hs : s.Reached h.capabilities)
    (hdefaults : ∀ record : PatternRecord, record.delimiters = none →
      ∃ pair, h.runner.delimiters record = .ok pair)
    {samples : List (List Char)} {patterns : List PatternRecord} (hsamples : IsWord samples.length)
    (hpatterns : ∀ record ∈ patterns, record.Portable) (chain : Option Bool)
    (hfound : ∀ found, h.runner.matchSamples (s.configFor chain) patterns samples = .ok found →
      ∀ m ∈ found, m.HasPortableOccurrences) :
    (far h s : Engine σ).Compares samples patterns chain
      fun record outcome cell => outcome = cell.verdict ↔ TestTells h s record := by
  apply compares_of_verdicts (farOutcome h s)
    (fun record => Attempt.verdict (h.runner.compile record))
  · exact testAll_eq patterns (validity_far hdialect s)
  · have hreports := matchSamples_far (σ := σ) hdialect hlimits hs.config hsamples hpatterns chain
      hfound
    generalize (far h s : Engine σ).matchSamples samples patterns chain = reply at hreports
    cases hrun : h.runner.matchSamples (s.configFor chain) patterns samples with
    | error fault =>
      rw [hrun] at hreports
      cases hreports
      exact .inl ⟨_, rfl⟩
    | ok found =>
      rw [hrun] at hreports
      cases hreports with
      | @answer _ found' hagree =>
        have hverdict := Runner.matchSamples_verdict hrun
        exact .inr ⟨found', rfl, SampleMatches.forall_verdict hagree hverdict⟩
  · intro record _ cell hcell
    rw [hcell]
    exact farOutcome_eq_iff (hdefaults record)

/-- After every history of changes, an engine that runs patterns itself says the same of a pattern
in a test and in a run. So does a remote one for just those records of which a test sends enough. -/
theorem testAll_verdicts {spec : EngineSpec} {caps : Capabilities}
    (hspec : Capabilities.ofSpec spec = .ok caps) (hlimits : caps.config.limits.Portable)
    {d : Dialect} (hdialect : d.Portable) (history : List EngineChange) :
    (∃ now : Engine σ, (withDialect caps d).after history = pure now ∧
      ∀ samples patterns chain, now.Compares samples patterns chain
        fun _ outcome cell => outcome = cell.verdict) ∧
    (caps.access = .remote → ∃ remote now : Engine σ,
      ofRemoteTable caps (Handler.mk caps d).loopback = .ok remote ∧
      remote.after history = pure now ∧
      ∀ samples patterns chain, IsWord samples.length →
        (∀ record ∈ patterns, record.Portable) →
        (∀ found, (Handler.mk caps d).runner.matchSamples (now.state.configFor chain) patterns
          samples = .ok found → ∀ m ∈ found, m.HasPortableOccurrences) →
        now.Compares samples patterns chain fun record outcome cell =>
          outcome = cell.verdict ↔ TestTells ⟨caps, d⟩ now.state record) := by
  have hbase := (Capabilities.ofSpec_bounded hspec).derived
  let h : Handler := ⟨caps, d⟩
  obtain ⟨s, hnear, hfar, hs, -⟩ :=
    after_agrees (σ := σ) (h := h) (s := .ofTable caps) hdialect ⟨rfl, hbase⟩ history
  -- The table's own default delimiters were checked when it was accepted.
  have hdefaults : ∀ record : PatternRecord, record.delimiters = none →
      ∃ pair, h.runner.delimiters record = .ok pair := by
    intro record hnone
    simp only [Runner.delimiters, hnone, Option.getD_none]
    split
    · rename_i hrequired
      exact Capabilities.ofSpec_defaults hspec hrequired
    · exact ⟨_, rfl⟩
  refine ⟨⟨near h s, hnear, near_compares h s⟩, ?_⟩
  intro haccess
  have hremote : ofRemoteTable caps h.loopback = .ok (far h (.ofTable caps) : Engine σ) := by
    simp [ofRemoteTable, haccess, far, h]
  refine ⟨far h (.ofTable caps), far h s, hremote, hfar, ?_⟩
  intro samples patterns chain hsamples hpatterns hfound
  exact far_compares hdialect hlimits hs hdefaults hsamples hpatterns chain hfound

def badTemplate : PatternRecord := ⟨1, ['a'], ['g'], none, ['$', '\x7b'], false⟩

def wordsHandler : Handler := ⟨.words, .literal⟩

theorem wordsHandler_portable :
    wordsHandler.dialect.Portable ∧ wordsHandler.capabilities.config.limits.Portable := by
  have hdialect : wordsHandler.dialect.Portable := by
    intro word flags diagnostic h
    simp [wordsHandler, Dialect.literal] at h
  exact ⟨hdialect, by decide, by decide, by decide⟩

/-- A remote test accepts the word, and its cell does not. -/
theorem remote_testAll_badTemplate :
    ∃ (remote : Engine Unit) (entry : SampleMatches) (cell : PatternOutcome),
      ofRemoteTable .words wordsHandler.loopback = .ok remote ∧
      remote.testAll [badTemplate] = pure [⟨1, true, none⟩] ∧
      remote.matchSamples [['a']] [badTemplate] none = pure [entry] ∧
      entry.outcomes = [cell] ∧ cell.verdict.valid = false := by
  obtain ⟨hdialect, hlimits⟩ := wordsHandler_portable
  have hbase := (Capabilities.ofSpec_bounded Capabilities.ofSpec_words).derived
  have htest : (far wordsHandler (.ofTable .words) : Engine Unit).testAll [badTemplate] =
      pure [⟨1, true, none⟩] :=
    testAll_eq [badTemplate] (validity_far hdialect (.ofTable .words))
  obtain ⟨e, hrun⟩ : ∃ e, wordsHandler.runner.matchSamples
      ((EngineState.ofTable .words).configFor none) [badTemplate] [['a']] =
        .ok [⟨0, ['a'], [.ofError e], .zero⟩] := ⟨_, rfl⟩
  have hpatterns : ∀ record ∈ [badTemplate], record.Portable := by
    simp [PatternRecord.Portable, IsSignedWord, badTemplate]
  have hsamples : IsWord [['a']].length := by decide
  have hfound : ∀ found, wordsHandler.runner.matchSamples
      ((EngineState.ofTable .words).configFor none) [badTemplate] [['a']] = .ok found →
        ∀ m ∈ found, m.HasPortableOccurrences := by
    simp [hrun, SampleMatches.HasPortableOccurrences, PatternOutcome.ofError]
  have hreports := matchSamples_far (σ := Unit) (s := .ofTable .words) hdialect hlimits hbase
    hsamples hpatterns none hfound
  rw [hrun] at hreports
  generalize hreply : (far wordsHandler (.ofTable .words) : Engine Unit).matchSamples [['a']]
    [badTemplate] none = reply at hreports
  obtain ⟨hagree⟩ := hreports
  obtain ⟨entry, _, hentry, hnone, rfl⟩ := List.forall₂_cons_left_iff.1 hagree
  obtain rfl := List.forall₂_nil_left_iff.1 hnone
  obtain ⟨cell, _, hcell, hnone, houtcomes⟩ := List.forall₂_cons_left_iff.1 hentry.outcomes
  obtain rfl := List.forall₂_nil_left_iff.1 hnone
  refine ⟨far wordsHandler (.ofTable .words), entry, cell, rfl, htest, hreply, houtcomes, ?_⟩
  rw [PatternOutcome.verdict, ← hcell.validity]
  rfl

theorem testAll_verdicts_words :
    Capabilities.ofSpec .words = .ok .words ∧ Capabilities.words.config.limits.Portable ∧
    Dialect.literal.Portable ∧
    ∃ now : Engine Unit, ofRemoteTable .words wordsHandler.loopback = .ok now ∧
      now.Compares [['a']] [⟨2, ['a'], ['g'], none, ['b'], false⟩, badTemplate] none
        fun record outcome cell =>
          outcome = cell.verdict ↔ TestTells wordsHandler now.state record := by
  obtain ⟨hdialect, hlimits⟩ := wordsHandler_portable
  obtain ⟨-, hfar⟩ := testAll_verdicts (σ := Unit) Capabilities.ofSpec_words hlimits hdialect []
  obtain ⟨remote, now, hremote, hnow, hcompares⟩ := hfar rfl
  obtain rfl : remote = now := Reply.pure_inj () hnow
  obtain rfl : far wordsHandler (.ofTable .words) = remote := Except.ok.inj hremote
  refine ⟨Capabilities.ofSpec_words, hlimits, hdialect, _, hremote, ?_⟩
  refine hcompares _ _ _ (by decide)
    (by simp [PatternRecord.Portable, IsSignedWord, badTemplate]) fun found hfound => ?_
  obtain ⟨e, hrun⟩ : ∃ e, wordsHandler.runner.matchSamples
      ((EngineState.ofTable .words).configFor none)
      [⟨2, ['a'], ['g'], none, ['b'], false⟩, badTemplate] [['a']] =
        .ok [⟨0, ['a'], [⟨2, .valid, .zero, [⟨['a'], [], 0⟩]⟩, .ofError e], .zero⟩] := ⟨_, rfl⟩
  obtain rfl := Except.ok.inj (hrun.symm.trans hfound)
  simp [SampleMatches.HasPortableOccurrences, PatternOutcome.ofError, Occurrence.Portable, IsWord]

end Engine

end RegexGateway
