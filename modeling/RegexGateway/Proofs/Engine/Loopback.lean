import RegexGateway.Proofs.Table.Capabilities
import RegexGateway.Proofs.Wire.Answer

namespace RegexGateway

open Json

/-- What a caller does to an engine between questions. -/
inductive EngineChange where
  | setting (update : SettingUpdate)
  | settings (settings : MatchSettings)
  | defaults (defaults : Defaults)
  | test (regex : List Char) (modifiers : Option (List Char)) (delimiters : Option DelimiterPair)
  deriving DecidableEq, Repr

variable {σ : Type}

namespace Engine

def change (e : Engine σ) : EngineChange → Reply σ (Engine σ)
  | .setting update => pure (e.setSetting update)
  | .settings settings => pure (e.applySettings settings)
  | .defaults defaults => pure (e.setDefaults defaults)
  | .test regex modifiers delimiters => do return (← e.test regex modifiers delimiters).2

def after (e : Engine σ) : List EngineChange → Reply σ (Engine σ)
  | [] => pure e
  | c :: rest => do (← e.change c).after rest

end Engine

/-- Two replies that say the same: values that are related, or the fault of a run, which comes over
the transport as its message, or is lost there too. -/
inductive Reply.Agrees {α : Type} (R : α → α → Prop) (engine : String) :
    Reply σ α → Reply σ α → Prop where
  | answers {a b : α} (h : R a b) : Agrees R engine (pure a) (pure b)
  | faults (fault : RunFault) :
      Agrees R engine (throw (.run fault))
        (throw (.remote engine (.transport (HandlerError.run fault).toTransport)))

/-- What comes over the transport of a run: a value that is related to its result, or what a caller is
told of its fault. -/
inductive Reply.Reports {α : Type} (R : α → α → Prop) (engine : String) :
    Except RunFault α → Reply σ α → Prop where
  | answer {a b : α} (h : R a b) : Reports R engine (.ok a) (pure b)
  | fault (fault : RunFault) :
      Reports R engine (.error fault)
        (throw (.remote engine (.transport (HandlerError.run fault).toTransport)))

theorem Reply.Reports.agrees {α : Type} {R : α → α → Prop} {engine : String}
    {run : Except RunFault α} {reply : Reply σ α} (h : Reports R engine run reply) :
    Agrees R engine (.ofRun run) reply := by
  cases h with
  | answer h => exact .answers h
  | fault fault => exact .faults fault

theorem Reply.pure_inj {α : Type} {a b : α} (state : σ) (h : (pure a : Reply σ α) = pure b) :
    a = b := by
  have hrun : (Except.ok a, state) = ((Except.ok b, state) : Except EngineError α × σ) :=
    congrFun h state
  exact Except.ok.inj (Prod.mk.inj hrun).1

structure MatchLimits.Portable (l : MatchLimits) : Prop where
  partLength : IsWord l.partLength
  wholeLength : IsWord l.wholeLength
  sampleLength : IsWord l.sampleLength

theorem MatchConfig.Derived.portable {base c : MatchConfig} (h : Derived base c)
    (hlimits : base.limits.Portable) : c.settings.Portable := by
  rw [← h.limits] at hlimits
  exact ⟨Nat.lt_of_le_of_lt h.bounded.partLength.2 hlimits.partLength,
    Nat.lt_of_le_of_lt h.bounded.wholeLength.2 hlimits.wholeLength,
    Nat.lt_of_le_of_lt h.bounded.sampleLength.2 hlimits.sampleLength⟩

theorem MatchConfig.Derived.configFor {base : MatchConfig} {s : EngineState}
    (h : Derived base s.config) (chain : Option Bool) : Derived base (s.configFor chain) := by
  cases chain with
  | none => exact h
  | some b => exact h.set (.chain b)

theorem Handler.handle_toString (h : Handler) {request : RemoteRequest}
    (hrequest : request.Portable) :
    h.handle (RemoteRequest.codec.toString request) =
      ((h.answer request).mapError .run).map fun response => response.sorted.compact := by
  simp only [handle, hrequest.ofString_toString, mapError_ok, bind, Except.bind]
  cases h.answer request <;> rfl

namespace EngineState

variable {α : Type} (s : EngineState) {h : Handler} {request : RemoteRequest} {codec : Codec α}

theorem call_loopback {levels : Nat} {a b : α} (hrequest : request.Portable)
    (hanswer : h.answer request = .ok (codec.encode a))
    (hcarries : codec.Carries Json.sorted levels a b) (hlevels : levels < depthLimit) :
    s.call (h.loopback : Transport σ) codec request = pure b := by
  have hhandle := h.handle_toString hrequest
  have hread := hcarries.ofString hlevels
  rw [hanswer] at hhandle
  rw [call, Handler.loopback, hhandle]
  simp only [mapError_ok, Except.map, liftM_pure, pure_bind, hread]

theorem call_loopback_fault {fault : RunFault} (hrequest : request.Portable)
    (hanswer : h.answer request = .error fault) :
    s.call (h.loopback : Transport σ) codec request =
      throw (.remote s.capabilities.id (.transport (HandlerError.run fault).toTransport)) := by
  have hhandle := h.handle_toString hrequest
  rw [hanswer] at hhandle
  unfold call Handler.loopback
  rw [hhandle]
  rfl

end EngineState

theorem Runner.compile_of_delimiters {caps : Capabilities} {dialect : Dialect}
    {record : PatternRecord} (h : record.delimiters ≠ none) (defaults defaults' : Defaults) :
    (⟨caps, defaults, dialect⟩ : Runner).compile record =
      (⟨caps, defaults', dialect⟩ : Runner).compile record := by
  obtain ⟨pair, hpair⟩ := Option.ne_none_iff_exists'.1 h
  simp only [compile, delimiters, hpair, Option.getD_some]

theorem Runner.verdict_portable {r : Runner} {record : PatternRecord} (hr : r.dialect.Portable)
    (hrecord : record.Portable) : (Validity.ofResult (r.compile record)).Portable := by
  have hattempt := compile_portable hr hrecord
  intro e he
  cases h : r.compile record with
  | ok p => simp [h, Validity.ofResult, Validity.error?] at he
  | error e' =>
    obtain rfl : e' = e := by simpa [h, Validity.ofResult, Validity.error?] using he
    rwa [h] at hattempt

namespace Engine

variable {h : Handler}

/-- The engine in a state that runs the handler's dialect. -/
def near (h : Handler) (s : EngineState) : Engine σ := ⟨s, .inProcess h.dialect⟩

/-- The engine in a state that asks the handler. -/
def far (h : Handler) (s : EngineState) : Engine σ := ⟨s, .remote h.loopback⟩

/-- What a handler says of a record: its verdict on the part of it that a test sends. -/
def farVerdict (h : Handler) (s : EngineState) (record : PatternRecord) : Validity :=
  .ofResult (h.runner.compile
    (.toTest 0 record.regex record.modifiers (record.delimiters.getD s.defaults.delimiters)))

theorem validity_far (hdialect : h.dialect.Portable) (s : EngineState) (record : PatternRecord) :
    (far h s : Engine σ).validity record = pure (farVerdict h s record) := by
  have hportable : (farVerdict h s record).Portable :=
    Runner.verdict_portable hdialect (by decide : IsSignedWord 0)
  have hcarries : Validity.codec.Carries Json.sorted 3 (farVerdict h s record)
      (farVerdict h s record) := hportable.carries .sorted
  exact s.call_loopback (.test _) rfl hcarries (by decide)

theorem test_agrees (hdialect : h.dialect.Portable) {s : EngineState}
    (hs : s.capabilities = h.capabilities) (regex : List Char) (modifiers : Option (List Char))
    (delimiters : Option DelimiterPair) :
    ∃ v : Validity,
      (near h s : Engine σ).test regex modifiers delimiters =
        pure (.ok v.error?.isNone, near h { s with pending := v.error? }) ∧
      (far h s : Engine σ).test regex modifiers delimiters =
        pure (.ok v.error?.isNone, far h { s with pending := v.error? }) := by
  have hsame : farVerdict h s (s.recordToTest regex modifiers delimiters) =
      .ofResult ((s.runner h.dialect).compile (s.recordToTest regex modifiers delimiters)) := by
    unfold farVerdict EngineState.runner Handler.runner
    rw [hs]
    exact congrArg Validity.ofResult
      (Runner.compile_of_delimiters (by simp [PatternRecord.toTest]) _ _)
  refine ⟨farVerdict h s (s.recordToTest regex modifiers delimiters), ?_, ?_⟩
  · rw [hsame]
    rfl
  · have hstate : (far h s : Engine σ).state = s := rfl
    rw [test, hstate, validity_far hdialect]
    rfl

theorem call_findMatches (s : EngineState) {c : MatchConfig}
    (hconfig : MatchConfig.Derived h.capabilities.config c) (hsettings : c.settings.Portable)
    {samples : List (List Char)} {patterns : List PatternRecord}
    (hpatterns : ∀ record ∈ patterns, record.Portable)
    (hfound : ∀ found, h.runner.matchSamples c patterns samples = .ok found →
      ∀ m ∈ found, m.Portable) :
    Reply.Reports (List.Forall₂ SampleMatches.SentAs) s.capabilities.id
      (h.runner.matchSamples c patterns samples)
      (s.call (h.loopback : Transport σ) SampleMatches.codec.list
        (.findMatches ⟨c.settings, samples, patterns⟩)) := by
  have hrequest : (RemoteRequest.findMatches ⟨c.settings, samples, patterns⟩).Portable :=
    .findMatches _ hsettings hpatterns
  have hanswer : h.answer (.findMatches ⟨c.settings, samples, patterns⟩) =
      (h.runner.matchSamples c patterns samples).map SampleMatches.codec.list.encode := by
    simp only [Handler.answer, hconfig.apply_settings]
    rfl
  cases hrun : h.runner.matchSamples c patterns samples with
  | error fault =>
    rw [hrun] at hanswer
    rw [s.call_loopback_fault hrequest hanswer]
    exact .fault fault
  | ok found =>
    rw [hrun] at hanswer
    obtain ⟨found', hsent, hcarries⟩ : ∃ found',
        List.Forall₂ SampleMatches.SentAs found found' ∧
        SampleMatches.codec.list.Carries Json.sorted 7 found found' :=
      Codec.carries_each .sorted fun m hm => (hfound found hrun m hm).carries .sorted
    rw [s.call_loopback hrequest hanswer hcarries (by decide)]
    exact .answer hsent

theorem matchSamples_far_eq (s : EngineState) (samples : List (List Char))
    (patterns : List PatternRecord) (chain : Option Bool) :
    (far h s : Engine σ).matchSamples samples patterns chain = (do
      let found ← s.call (h.loopback : Transport σ) SampleMatches.codec.list
        (.findMatches ⟨(s.configFor chain).hideBlanks.settings, samples, patterns⟩)
      return if (s.configFor chain).settings.showBlanks
        then found.map (·.present (s.configFor chain)) else found) := rfl

/-- The matches that a caller of the far engine gets are those that the handler finds under the
config of the engine that asked. -/
theorem matchSamples_far (hdialect : h.dialect.Portable)
    (hlimits : h.capabilities.config.limits.Portable) {s : EngineState}
    (hconfig : MatchConfig.Derived h.capabilities.config s.config) {samples : List (List Char)}
    {patterns : List PatternRecord} (hsamples : IsWord samples.length)
    (hpatterns : ∀ record ∈ patterns, record.Portable) (chain : Option Bool)
    (hfound : ∀ found, h.runner.matchSamples (s.configFor chain) patterns samples = .ok found →
      ∀ m ∈ found, m.HasPortableOccurrences) :
    Reply.Reports (List.Forall₂ SampleMatches.Agrees) s.capabilities.id
      (h.runner.matchSamples (s.configFor chain) patterns samples)
      ((far h s : Engine σ).matchSamples samples patterns chain) := by
  have hderived := (hconfig.configFor chain).hideBlanks
  rw [matchSamples_far_eq]
  generalize s.configFor chain = c at hderived hfound ⊢
  have hportable : ∀ found, h.runner.matchSamples c.hideBlanks patterns samples = .ok found →
      ∀ m ∈ found, m.Portable := by
    intro hidden hrun
    rw [Runner.matchSamples_hideBlanks, hrun] at hfound
    have hoccurrences : ∀ m ∈ hidden, m.HasPortableOccurrences := by
      have hshown := hfound _ rfl
      split at hshown
      · simpa [SampleMatches.present_hasPortableOccurrences] using hshown
      · exact hshown
    exact Runner.matchSamples_portable hdialect hpatterns hsamples hrun hoccurrences
  have hreports := call_findMatches (σ := σ) s hderived (hderived.portable hlimits) hpatterns
    hportable
  rw [Runner.matchSamples_hideBlanks]
  generalize h.runner.matchSamples c.hideBlanks patterns samples = run at hreports ⊢
  generalize s.call (h.loopback : Transport σ) SampleMatches.codec.list _ = reply at hreports ⊢
  cases hreports with
  | fault fault => exact .fault fault
  | answer hsent =>
    have hagree := hsent.imp fun _ _ hm => hm.agrees
    rw [pure_bind]
    apply Reply.Reports.answer
    split
    · exact List.rel_map (fun _ _ hm => hm.present c) hagree
    · exact hagree

/-- While the table's own defaults are in force, the handler runs patterns as the engine itself. -/
theorem runner_eq {s : EngineState} (hs : s.capabilities = h.capabilities)
    (hdefaults : s.defaults = h.capabilities.defaults) : h.runner = s.runner h.dialect := by
  rw [Handler.runner, EngineState.runner, hs, hdefaults]

theorem matchSamples_agrees (hdialect : h.dialect.Portable)
    (hlimits : h.capabilities.config.limits.Portable) {s : EngineState}
    (hs : s.capabilities = h.capabilities) (hdefaults : s.defaults = h.capabilities.defaults)
    (hconfig : MatchConfig.Derived h.capabilities.config s.config) {samples : List (List Char)}
    {patterns : List PatternRecord} (hsamples : IsWord samples.length)
    (hpatterns : ∀ record ∈ patterns, record.Portable) (chain : Option Bool)
    (hfound : ∀ found, (near h s : Engine σ).matchSamples samples patterns chain = pure found →
      ∀ m ∈ found, m.HasPortableOccurrences) :
    Reply.Agrees (List.Forall₂ SampleMatches.Agrees) s.capabilities.id
      ((near h s : Engine σ).matchSamples samples patterns chain)
      ((far h s : Engine σ).matchSamples samples patterns chain) := by
  have hnear : (near h s : Engine σ).matchSamples samples patterns chain =
      .ofRun (h.runner.matchSamples (s.configFor chain) patterns samples) := by
    rw [runner_eq hs hdefaults]
    rfl
  rw [hnear] at hfound ⊢
  apply Reply.Reports.agrees
  apply matchSamples_far hdialect hlimits hconfig hsamples hpatterns chain
  intro found hrun
  rw [hrun] at hfound
  exact hfound found rfl

theorem replace_far (s : EngineState) {samples : List (List Char)} {patterns : List PatternRecord}
    (hpatterns : ∀ record ∈ patterns, record.Portable) :
    Reply.Reports (· = ·) s.capabilities.id (h.runner.replace patterns samples)
      ((far h s : Engine σ).replace samples patterns) := by
  have hrequest : (RemoteRequest.replace ⟨samples, patterns⟩).Portable := .replace _ hpatterns
  have hanswer : h.answer (.replace ⟨samples, patterns⟩) =
      (h.runner.replace patterns samples).map ReplacedSample.codec.list.encode := rfl
  have hfar : (far h s : Engine σ).replace samples patterns =
      s.call (h.loopback : Transport σ) ReplacedSample.codec.list
        (.replace ⟨samples, patterns⟩) := rfl
  rw [hfar]
  cases hrun : h.runner.replace patterns samples with
  | error fault =>
    rw [hrun] at hanswer
    rw [s.call_loopback_fault hrequest hanswer]
    exact .fault fault
  | ok replaced =>
    rw [hrun] at hanswer
    have hduration := Runner.replace_duration hrun
    have hcarries : ReplacedSample.codec.list.Carries Json.sorted 2 replaced replaced :=
      Codec.carries_list .sorted fun r hr => ReplacedSample.carries .sorted (hduration r hr)
    rw [s.call_loopback hrequest hanswer hcarries (by decide)]
    exact .answer rfl

theorem replace_agrees {s : EngineState} (hs : s.capabilities = h.capabilities)
    (hdefaults : s.defaults = h.capabilities.defaults) {samples : List (List Char)}
    {patterns : List PatternRecord} (hpatterns : ∀ record ∈ patterns, record.Portable) :
    Reply.Agrees (· = ·) s.capabilities.id ((near h s : Engine σ).replace samples patterns)
      ((far h s : Engine σ).replace samples patterns) := by
  have hnear : (near h s : Engine σ).replace samples patterns =
      .ofRun (h.runner.replace patterns samples) := by
    rw [runner_eq hs hdefaults]
    rfl
  rw [hnear]
  exact (replace_far s hpatterns).agrees

end Engine

def EngineChange.KeepsDefaults : EngineChange → Prop
  | .defaults _ => False
  | _ => True

/-- A state that changes may lead to in an engine of a table. -/
structure EngineState.Reached (caps : Capabilities) (s : EngineState) : Prop where
  capabilities : s.capabilities = caps
  config : MatchConfig.Derived caps.config s.config

namespace Engine

variable {h : Handler}

theorem change_agrees (hdialect : h.dialect.Portable) {s : EngineState}
    (hs : s.Reached h.capabilities) (c : EngineChange) :
    ∃ s' : EngineState, (near h s : Engine σ).change c = pure (near h s') ∧
      (far h s : Engine σ).change c = pure (far h s') ∧ s'.Reached h.capabilities ∧
      (c.KeepsDefaults → s'.defaults = s.defaults) := by
  cases c with
  | setting update =>
    exact ⟨{ s with config := s.config.set update }, rfl, rfl,
      ⟨hs.capabilities, hs.config.set update⟩, fun _ => rfl⟩
  | settings settings =>
    exact ⟨{ s with config := s.config.apply settings }, rfl, rfl,
      ⟨hs.capabilities, hs.config.apply settings⟩, fun _ => rfl⟩
  | defaults defaults =>
    exact ⟨{ s with defaults }, rfl, rfl, ⟨hs.capabilities, hs.config⟩, False.elim⟩
  | test regex modifiers delimiters =>
    obtain ⟨v, hnear, hfar⟩ :=
      test_agrees (σ := σ) hdialect hs.capabilities regex modifiers delimiters
    have hnear' : (near h s : Engine σ).change (.test regex modifiers delimiters) =
        pure (near h { s with pending := v.error? }) := by
      rw [change, hnear]
      rfl
    have hfar' : (far h s : Engine σ).change (.test regex modifiers delimiters) =
        pure (far h { s with pending := v.error? }) := by
      rw [change, hfar]
      rfl
    exact ⟨{ s with pending := v.error? }, hnear', hfar', ⟨hs.capabilities, hs.config⟩,
      fun _ => rfl⟩

theorem after_agrees (hdialect : h.dialect.Portable) {s : EngineState}
    (hs : s.Reached h.capabilities) (history : List EngineChange) :
    ∃ s' : EngineState, (near h s : Engine σ).after history = pure (near h s') ∧
      (far h s : Engine σ).after history = pure (far h s') ∧ s'.Reached h.capabilities ∧
      ((∀ c ∈ history, c.KeepsDefaults) → s'.defaults = s.defaults) := by
  induction history generalizing s with
  | nil => exact ⟨s, rfl, rfl, hs, fun _ => rfl⟩
  | cons c rest ih =>
    obtain ⟨s₁, hnear₁, hfar₁, hs₁, hkeep₁⟩ := change_agrees (σ := σ) hdialect hs c
    obtain ⟨s₂, hnear₂, hfar₂, hs₂, hkeep₂⟩ := ih hs₁
    refine ⟨s₂, ?_, ?_, hs₂, ?_⟩
    · rw [after, hnear₁, pure_bind, hnear₂]
    · rw [after, hfar₁, pure_bind, hfar₂]
    · intro hkeeps
      obtain ⟨hc, hrest⟩ := List.forall_mem_cons.1 hkeeps
      rw [hkeep₂ hrest, hkeep₁ hc]

/-- An engine that runs a dialect and a remote one that is answered with the same dialect are alike
after every history of changes: in what a test says and what error is kept of it and, while the
defaults are those of the table, in matches and replacements. -/
theorem loopback_agrees {spec : EngineSpec} {caps : Capabilities}
    (hspec : Capabilities.ofSpec spec = .ok caps) (haccess : caps.access = .remote)
    (hlimits : caps.config.limits.Portable) {d : Dialect} (hdialect : d.Portable)
    (history : List EngineChange) :
    ∃ remote now remoteNow : Engine σ,
      ofRemoteTable caps (Handler.mk caps d).loopback = .ok remote ∧
      (withDialect caps d).after history = pure now ∧ remote.after history = pure remoteNow ∧
      (∀ regex modifiers delimiters, ∃ usable next remoteNext,
        now.test regex modifiers delimiters = pure (.ok usable, next) ∧
        remoteNow.test regex modifiers delimiters = pure (.ok usable, remoteNext) ∧
        ∀ id, next.state.lastError id = remoteNext.state.lastError id) ∧
      ((∀ c ∈ history, c.KeepsDefaults) → ∀ samples patterns, IsWord samples.length →
        (∀ record ∈ patterns, record.Portable) →
        (∀ chain, (∀ found, now.matchSamples samples patterns chain = pure found →
            ∀ m ∈ found, m.HasPortableOccurrences) →
          Reply.Agrees (List.Forall₂ SampleMatches.Agrees) caps.id
            (now.matchSamples samples patterns chain)
            (remoteNow.matchSamples samples patterns chain)) ∧
        Reply.Agrees (· = ·) caps.id (now.replace samples patterns)
          (remoteNow.replace samples patterns)) := by
  have hbase := (Capabilities.ofSpec_bounded hspec).derived
  let h : Handler := ⟨caps, d⟩
  obtain ⟨s, hnear, hfar, hs, hkeeps⟩ :=
    after_agrees (σ := σ) (h := h) (s := .ofTable caps) hdialect ⟨rfl, hbase⟩ history
  refine ⟨far h (.ofTable caps), near h s, far h s, ?_, hnear, hfar, ?_, ?_⟩
  · simp [ofRemoteTable, haccess, far, h]
  · intro regex modifiers delimiters
    obtain ⟨v, hv, hv'⟩ := test_agrees (σ := σ) hdialect hs.capabilities regex modifiers delimiters
    exact ⟨_, _, _, hv, hv', fun _ => rfl⟩
  · intro hhistory samples patterns hsamples hpatterns
    have hdefaults := hkeeps hhistory
    have hid : s.capabilities.id = caps.id := congrArg Capabilities.id hs.capabilities
    rw [← hid]
    constructor
    · intro chain hfound
      exact matchSamples_agrees hdialect hlimits hs.capabilities hdefaults hs.config hsamples
        hpatterns chain hfound
    · exact replace_agrees hs.capabilities hdefaults hpatterns

theorem loopback_agrees_words :
    Capabilities.ofSpec .words = .ok .words ∧ Capabilities.words.access = .remote ∧
    Capabilities.words.config.limits.Portable ∧ Dialect.literal.Portable ∧
    ∃ now remoteNow : Engine Unit,
      (withDialect .words .literal).after [.setting (.showBlanks true)] = pure now ∧
      now.matchSamples [['a', ' ']] [⟨1, ['a', ' '], [], none, [], false⟩] none =
        pure [⟨0, ['a', ' '], [⟨1, .valid, .zero, [⟨'a' :: "[space]".toList, [], 0⟩]⟩], .zero⟩] ∧
      Reply.Agrees (List.Forall₂ SampleMatches.Agrees) "words"
        (now.matchSamples [['a', ' ']] [⟨1, ['a', ' '], [], none, [], false⟩] none)
        (remoteNow.matchSamples [['a', ' ']] [⟨1, ['a', ' '], [], none, [], false⟩] none) := by
  have hlimits : Capabilities.words.config.limits.Portable := ⟨by decide, by decide, by decide⟩
  have hdialect : Dialect.literal.Portable := by
    intro word flags diagnostic h
    simp [Dialect.literal] at h
  obtain ⟨remote, now, remoteNow, -, hnow, -, -, hagrees⟩ := loopback_agrees (σ := Unit)
    Capabilities.ofSpec_words rfl hlimits hdialect [.setting (.showBlanks true)]
  have hstate : now = (withDialect .words .literal).setSetting (.showBlanks true) :=
    Reply.pure_inj () hnow.symm
  have hrun : now.matchSamples [['a', ' ']] [⟨1, ['a', ' '], [], none, [], false⟩] none =
      pure [⟨0, ['a', ' '], [⟨1, .valid, .zero, [⟨'a' :: "[space]".toList, [], 0⟩]⟩], .zero⟩] := by
    rw [hstate]
    rfl
  refine ⟨Capabilities.ofSpec_words, rfl, hlimits, hdialect, now, remoteNow, hnow, hrun, ?_⟩
  obtain ⟨hmatches, -⟩ := hagrees (by simp [EngineChange.KeepsDefaults]) [['a', ' ']]
    [⟨1, ['a', ' '], [], none, [], false⟩] (by decide)
    (by simp [PatternRecord.Portable, IsSignedWord])
  apply hmatches none
  intro found hfound
  obtain rfl := Reply.pure_inj () (hrun.symm.trans hfound)
  simp [SampleMatches.HasPortableOccurrences, Occurrence.Portable, IsWord]

end Engine

end RegexGateway
