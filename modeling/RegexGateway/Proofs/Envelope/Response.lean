import RegexGateway.Envelope.Response
import RegexGateway.Proofs.Engine.Ends
import RegexGateway.Proofs.Envelope.Request
import RegexGateway.Proofs.Table.Config
import RegexGateway.Table.Builtin

namespace RegexGateway

theorem Engine.ofTable_state {σ : Type} {caps : Capabilities} {e : Engine σ}
    (h : Engine.ofTable caps = .ok e) : e.state = .ofTable caps := by
  unfold Engine.ofTable Engine.ofLocalTable Engine.ofRemoteTable at h
  repeat' split at h
  all_goals first | contradiction | (obtain rfl := Except.ok.inj h; rfl)

theorem Engine.foldl_setSetting {σ : Type} (e : Engine σ) (updates : List SettingUpdate) :
    updates.foldl Engine.setSetting e =
      { e with state.config := updates.foldl MatchConfig.set e.state.config } := by
  induction updates generalizing e with
  | nil => rfl
  | cons update rest ih => rw [List.foldl_cons, ih]; rfl

namespace Envelope

namespace RequestedConfig

/-- The config of a table with the settings of an envelope: the lengths as they are, and the flags
where there are some and the table leaves the choice. -/
def applied (c : RequestedConfig) (table : MatchConfig) : MatchConfig :=
  { table with settings := { table.settings with
      wholeLength := c.wholeLength
      partLength := c.partLength
      sampleLength := c.sampleLength
      showBlanks := c.showBlanks.getD table.settings.showBlanks
      truncate := if table.limits.truncateOptional then c.truncate.getD table.settings.truncate
        else table.settings.truncate } }

/-- Lengths that limits leave as they are. -/
structure Within (c : RequestedConfig) (limits : MatchLimits) : Prop where
  wholeLength : Fits c.wholeLength limits.wholeLength
  partLength : Fits c.partLength limits.partLength
  sampleLength : Fits c.sampleLength limits.sampleLength

theorem Within.foldl_updates {c : RequestedConfig} {table : MatchConfig}
    (h : c.Within table.limits) : c.updates.foldl MatchConfig.set table = c.applied table := by
  obtain ⟨whole, part, sample, showBlanks, truncate⟩ := c
  obtain ⟨settings, limits⟩ := table
  obtain ⟨hwhole, hpart, hsample⟩ := h
  simp only [updates, List.foldl_append, List.foldl_cons, List.foldl_nil, MatchConfig.set,
    hwhole.clampLength_eq, hpart.clampLength_eq, hsample.clampLength_eq, applied]
  cases showBlanks <;> cases truncate <;> cases hoptional : limits.truncateOptional <;>
    simp [MatchConfig.set, hoptional]

end RequestedConfig

theorem WritesLength.fits {settings : Fields} {name : String} {limit length : Nat}
    (h : WritesLength settings name limit length) : Fits length limit := by
  obtain ⟨-, hleast, hlimit⟩ := h
  exact ⟨Nat.lt_of_lt_of_le (by decide) hleast, hlimit⟩

theorem Desk.parse_within {desk : Desk} {text : List Char} {r : Request}
    (h : desk.parse text = .ok r) :
    ∀ c ∈ r.config, c.Within r.capabilities.config.limits := by
  simp only [Desk.parse, bind_eq_ok] at h
  obtain ⟨data, -, mode, -, caps, -, patterns, -, h⟩ := h
  split at h
  · obtain rfl := Except.ok.inj h
    nofun
  · simp only [bind_eq_ok] at h
    obtain ⟨samples, -, chain, -, h⟩ := h
    split at h
    · obtain rfl := Except.ok.inj h
      nofun
    · simp only [bind_eq_ok, parseConfig_eq_ok] at h
      obtain ⟨config, ⟨settings, -, hconfig⟩, h⟩ := h
      obtain rfl := Except.ok.inj h
      rintro c ⟨⟩
      exact ⟨hconfig.wholeLength.fits, hconfig.partLength.fits, hconfig.sampleLength.fits⟩

theorem patternOf_portable {mode : Mode} {fields : Fields} {record : PatternRecord}
    (h : patternOf mode fields = .ok record) : record.Portable := by
  simp only [patternOf, bind_eq_ok, idField_eq_ok] at h
  obtain ⟨id, ⟨-, hword⟩, regex, -, modifiers, -, delimiters, -, h⟩ := h
  split at h
  · obtain rfl := Except.ok.inj h
    exact hword
  · simp only [bind_eq_ok] at h
    obtain ⟨replacement, -, unescape, -, h⟩ := h
    obtain rfl := Except.ok.inj h
    exact hword

theorem parsePattern_portable {mode : Mode} {json : Json} {record : PatternRecord}
    (h : parsePattern mode json = .ok record) : record.Portable := by
  unfold parsePattern at h
  split at h
  · split at h
    · contradiction
    · exact patternOf_portable (mapError_eq_ok.1 h)
  · contradiction

theorem Desk.parse_portable {desk : Desk} {text : List Char} {r : Request}
    (h : desk.parse text = .ok r) : ∀ record ∈ r.patterns, record.Portable := by
  simp only [Desk.parse, bind_eq_ok] at h
  obtain ⟨data, -, mode, -, caps, -, records, hrecords, h⟩ := h
  have hpatterns : r.patterns = records := by
    split at h
    · obtain rfl := Except.ok.inj h
      rfl
    · simp only [bind_eq_ok] at h
      obtain ⟨samples, -, chain, -, h⟩ := h
      split at h
      · obtain rfl := Except.ok.inj h
        rfl
      · simp only [bind_eq_ok] at h
        obtain ⟨config, -, h⟩ := h
        obtain rfl := Except.ok.inj h
        rfl
  simp only [Desk.patterns, bind_eq_ok] at hrecords
  obtain ⟨json, -, hrecords⟩ := hrecords
  split at hrecords
  · rw [guard_eq_ok, guard_eq_ok, mapM_eq_ok fun _ _ _ => Iff.rfl] at hrecords
    obtain ⟨-, -, hread⟩ := hrecords
    rw [hpatterns]
    intro record hrecord
    obtain ⟨i, hi, rfl⟩ := List.mem_iff_getElem.1 hrecord
    exact parsePattern_portable (hread.get (hread.length_eq ▸ hi) hi)
  · contradiction

namespace Request

/-- The config that a request is answered with: that of the table, with the settings of the
request if it brings some. -/
def answerConfig (r : Request) : MatchConfig :=
  match r.config with
  | none => r.capabilities.config
  | some c => c.applied r.capabilities.config

/-- An engine that was just opened for a request. -/
def Opens (r : Request) (engine : Engine Unit) : Prop :=
  ∃ fresh, Engine.ofTable r.capabilities = .ok fresh ∧
    engine = { fresh with state.config := r.answerConfig }

/-- An engine that fails at what a request asks of it. -/
inductive Fails (r : Request) (engine : Engine Unit) (e : EngineError) : Prop where
  | test (hmode : r.mode = .test) (h : (engine.testAll r.patterns).result = .error e)
  | findMatches (hmode : r.mode = .findMatches)
      (h : (engine.matchSamples r.samples r.patterns (some r.chain)).result = .error e)
  | replace (hmode : r.mode = .replace)
      (h : (engine.replace r.samples r.patterns).result = .error e)

/-- A request that runs no pattern that lets a match start anew where it looks behind. Its settings
fit into 64 bits. -/
structure KeepsAhead (r : Request) : Prop where
  settings : r.answerConfig.settings.Portable
  patterns : r.mode ≠ .test →
    ∀ record ∈ r.patterns, (Handler.ofTable r.capabilities).runner.KeepsAhead record

theorem KeepsAhead.comesBack {r : Request} (h : r.KeepsAhead)
    (hportable : ∀ record ∈ r.patterns, record.Portable) {engine : Engine Unit}
    (hopen : r.Opens engine) : (r.answer engine).ComesBack := by
  obtain ⟨fresh, hfresh, rfl⟩ := hopen
  obtain ⟨hcaps, hdefaults, hbackend⟩ := Engine.openedFor_of_ofTable hfresh
  have hopened : Engine.OpenedFor { fresh with state.config := r.answerConfig } r.capabilities :=
    ⟨hcaps, hdefaults, hbackend⟩
  unfold answer
  split
  · exact (hopened.comesBack_testAll r.patterns).map _
  · rename_i hmode
    have hkeeps := h.patterns (by simp [hmode])
    exact (hopened.comesBack_matchSamples h.settings hportable hkeeps _ _).map _
  · rename_i hmode
    have hkeeps := h.patterns (by simp [hmode])
    exact (hopened.comesBack_replace hportable hkeeps _).map _

end Request

/-- What a desk answers to a text. -/
inductive Desk.Answers (desk : Desk) (text : List Char) : Response → Prop where
  | rejected (reason : Rejection) (h : desk.parse text = .error reason) :
      Answers desk text ⟨false, reason.code, .arr [.str ""], reason.message, false⟩
  | unopened (r : Request) (e : ConfigError) (h : desk.parse text = .ok r)
      (hopen : (Engine.ofTable r.capabilities : Except ConfigError (Engine Unit)) = .error e) :
      Answers desk text ⟨false, 500, .arr [.str ""], "Server error: " ++ e.message, false⟩
  | failed (r : Request) (engine : Engine Unit) (e : EngineError) (h : desk.parse text = .ok r)
      (hopen : r.Opens engine) (hfails : r.Fails engine e) (hback : e.loss? = none) :
      Answers desk text ⟨false, 500, .arr [.str ""], "Server error: " ++ e.message, false⟩
  | tested (r : Request) (engine : Engine Unit) (outcomes : List TestOutcome)
      (h : desk.parse text = .ok r) (hmode : r.mode = .test) (hopen : r.Opens engine)
      (hrun : (engine.testAll r.patterns).result = .ok outcomes) :
      Answers desk text ⟨true, 0, (TestOutcome.codec.list.encode outcomes).sorted, "", false⟩
  | matched (r : Request) (engine : Engine Unit) (found : List SampleMatches)
      (h : desk.parse text = .ok r) (hmode : r.mode = .findMatches) (hopen : r.Opens engine)
      (hrun : (engine.matchSamples r.samples r.patterns (some r.chain)).result = .ok found) :
      Answers desk text ⟨true, 0, (SampleMatches.codec.list.encode found).sorted, "", true⟩
  | replaced (r : Request) (engine : Engine Unit) (texts : List ReplacedSample)
      (h : desk.parse text = .ok r) (hmode : r.mode = .replace) (hopen : r.Opens engine)
      (hrun : (engine.replace r.samples r.patterns).result = .ok texts) :
      Answers desk text ⟨true, 0, (ReplacedSample.codec.list.encode texts).sorted, "", true⟩

/-- A text is never answered, since the engine that it asks never comes back. -/
def Desk.Loses (desk : Desk) (text : List Char) (loss : Loss) : Prop :=
  ∃ r engine e, desk.parse text = .ok r ∧ r.Opens engine ∧ r.Fails engine e ∧ e.loss? = some loss

section

variable {desk : Desk} {text : List Char} {r : Request}

theorem Rejection.code_ne_zero (reason : Rejection) : reason.code ≠ 0 := by
  cases reason with
  | missing field => cases field <;> decide
  | missingLength setting => cases setting <;> decide
  | missingPatternField index name => simp [code]
  | _ => simp [code]

theorem Request.run_of_opens (h : desk.parse text = .ok r) {engine : Engine Unit}
    (hopen : r.Opens engine) : r.run = (r.answer engine).result := by
  obtain ⟨fresh, hfresh, rfl⟩ := hopen
  have hconfig : fresh.state.config = r.capabilities.config := by
    rw [Engine.ofTable_state hfresh]
    rfl
  have hupdates : (r.config.elim [] RequestedConfig.updates).foldl MatchConfig.set
      r.capabilities.config = r.answerConfig := by
    unfold answerConfig
    split
    · rename_i hnone
      rw [hnone]
      rfl
    · rename_i c hc
      rw [hc]
      exact (Desk.parse_within h c hc).foldl_updates
  simp only [Request.run, Request.engine, hfresh, mapError_ok, Engine.foldl_setSetting, hconfig,
    hupdates, bind, Except.bind, pure, Except.pure]
  rfl

theorem Request.run_of_unopened {e : ConfigError}
    (h : (Engine.ofTable r.capabilities : Except ConfigError (Engine Unit)) = .error e) :
    r.run = .error (.config e) := by
  simp [Request.run, Request.engine, h, bind, Except.bind]

theorem Request.Fails.answer_eq {engine : Engine Unit} {e : EngineError}
    (h : r.Fails engine e) : (r.answer engine).result = .error e := by
  cases h with
  | test hmode h | findMatches hmode h | replace hmode h =>
    simp only [answer, hmode, Reply.result_map, h]
    rfl

theorem Request.fails_of_answer {engine : Engine Unit} {e : EngineError}
    (h : (r.answer engine).result = .error e) : r.Fails engine e := by
  unfold answer at h
  cases hmode : r.mode with
  | test =>
    rw [hmode, Reply.result_map] at h
    exact .test hmode (map_eq_error.1 h)
  | findMatches =>
    rw [hmode, Reply.result_map] at h
    exact .findMatches hmode (map_eq_error.1 h)
  | replace =>
    rw [hmode, Reply.result_map] at h
    exact .replace hmode (map_eq_error.1 h)

theorem Request.answers_of_answer (hparse : desk.parse text = .ok r) {engine : Engine Unit}
    (hopen : r.Opens engine) {content : Json} (h : (r.answer engine).result = .ok content) :
    desk.Answers text (.success r.mode content) := by
  unfold answer at h
  cases hmode : r.mode with
  | test =>
    rw [hmode, Reply.result_map] at h
    obtain ⟨outcomes, hrun, rfl⟩ := map_eq_ok.1 h
    exact .tested r engine outcomes hparse hmode hopen hrun
  | findMatches =>
    rw [hmode, Reply.result_map] at h
    obtain ⟨found, hrun, rfl⟩ := map_eq_ok.1 h
    exact .matched r engine found hparse hmode hopen hrun
  | replace =>
    rw [hmode, Reply.result_map] at h
    obtain ⟨texts, hrun, rfl⟩ := map_eq_ok.1 h
    exact .replaced r engine texts hparse hmode hopen hrun

theorem Desk.answers_or_loses (desk : Desk) (text : List Char) :
    (∃ response, desk.respond text = .ok response ∧ desk.Answers text response) ∨
      ∃ loss, desk.respond text = .error loss ∧ desk.Loses text loss := by
  unfold respond
  split
  · rename_i reason h
    exact .inl ⟨_, rfl, .rejected reason h⟩
  · rename_i r h
    cases hfresh : (Engine.ofTable r.capabilities : Except ConfigError (Engine Unit)) with
    | error e =>
      rw [Request.run_of_unopened hfresh]
      exact .inl ⟨_, rfl, .unopened r e h hfresh⟩
    | ok fresh =>
      have hopen : r.Opens { fresh with state.config := r.answerConfig } := ⟨fresh, hfresh, rfl⟩
      rw [Request.run_of_opens h hopen]
      generalize { fresh with state.config := r.answerConfig } = engine at hopen
      cases hanswer : (r.answer engine).result with
      | ok content => exact .inl ⟨_, rfl, Request.answers_of_answer h hopen hanswer⟩
      | error e =>
        have hfails := Request.fails_of_answer hanswer
        cases hloss : e.loss? with
        | none =>
          exact .inl ⟨_, by simp only [hloss, Response.failure, Response.serverError],
            .failed r engine e h hopen hfails hloss⟩
        | some loss =>
          exact .inr ⟨loss, by simp only [hloss], r, engine, e, h, hopen, hfails, hloss⟩

theorem Desk.Answers.respond_eq {response : Response} (h : desk.Answers text response) :
    desk.respond text = .ok response := by
  cases h with
  | rejected reason h => simp only [respond, h, Response.failure]
  | unopened r e h hopen =>
    simp only [respond, h, Request.run_of_unopened hopen]
    rfl
  | failed r engine e h hopen hfails hback =>
    have hrun : r.run = .error e := (Request.run_of_opens h hopen).trans hfails.answer_eq
    simp only [respond, h, hrun, hback, Response.failure, Response.serverError]
  | tested r engine outcomes h hmode hopen hrun =>
    have hcontent : r.run = .ok (TestOutcome.codec.list.encode outcomes) := by
      simp only [Request.run_of_opens h hopen, Request.answer, hmode, Reply.result_map, hrun]
      rfl
    simp [respond, h, hcontent, Response.success, hmode]
  | matched r engine found h hmode hopen hrun =>
    have hcontent : r.run = .ok (SampleMatches.codec.list.encode found) := by
      simp only [Request.run_of_opens h hopen, Request.answer, hmode, Reply.result_map, hrun]
      rfl
    simp [respond, h, hcontent, Response.success, hmode]
  | replaced r engine texts h hmode hopen hrun =>
    have hcontent : r.run = .ok (ReplacedSample.codec.list.encode texts) := by
      simp only [Request.run_of_opens h hopen, Request.answer, hmode, Reply.result_map, hrun]
      rfl
    simp [respond, h, hcontent, Response.success, hmode]

theorem Desk.Loses.respond_eq {loss : Loss} (h : desk.Loses text loss) :
    desk.respond text = .error loss := by
  obtain ⟨r, engine, e, h, hopen, hfails, hloss⟩ := h
  have hrun : r.run = .error e := (Request.run_of_opens h hopen).trans hfails.answer_eq
  simp only [respond, h, hrun, hloss]

theorem Desk.Answers.form {response : Response} (h : desk.Answers text response) :
    response.ok = true ∧ response.code = 0 ∨
      response.ok = false ∧ response.code ≠ 0 ∧ response.content = .arr [.str ""] ∧
        response.hasTiming = false := by
  cases h with
  | rejected reason => exact .inr ⟨rfl, reason.code_ne_zero, rfl, rfl⟩
  | unopened | failed => exact .inr ⟨rfl, Nat.succ_ne_zero _, rfl, rfl⟩
  | tested | matched | replaced => exact .inl ⟨rfl, rfl⟩

/-- Every text is answered in the one way that there is to answer it, unless the engine that it asks
never comes back. It does come back if no pattern lets a match start anew where it looks behind. The
response says itself whether it is an answer. -/
theorem Desk.respond_iff_answers (desk : Desk) (text : List Char) :
    (∀ response, desk.respond text = .ok response ↔ desk.Answers text response) ∧
      (∀ loss, desk.respond text = .error loss ↔ desk.Loses text loss) ∧
      ((∀ r, desk.parse text = .ok r → r.KeepsAhead) →
        ∃ response, desk.respond text = .ok response) ∧
      ∀ response, desk.respond text = .ok response →
        (response.ok = true ∨
          response.ok = false ∧ response.code ≠ 0 ∧ response.content = .arr [.str ""] ∧
            response.hasTiming = false) ∧
        (response.ok = true ↔ response.code = 0) := by
  have hanswers : ∀ response, desk.respond text = .ok response ↔ desk.Answers text response := by
    intro response
    refine ⟨fun h => ?_, Answers.respond_eq⟩
    obtain ⟨answer, hanswer, hanswers⟩ | ⟨loss, hloss, -⟩ := desk.answers_or_loses text
    · obtain rfl := Except.ok.inj (h.symm.trans hanswer)
      exact hanswers
    · exact nomatch h.symm.trans hloss
  have hloses : ∀ loss, desk.respond text = .error loss ↔ desk.Loses text loss := by
    intro loss
    refine ⟨fun h => ?_, Loses.respond_eq⟩
    obtain ⟨answer, hanswer, -⟩ | ⟨loss', hloss, hloses⟩ := desk.answers_or_loses text
    · exact nomatch h.symm.trans hanswer
    · obtain rfl := Except.error.inj (h.symm.trans hloss)
      exact hloses
  refine ⟨hanswers, hloses, ?_, ?_⟩
  · intro hkeeps
    obtain ⟨response, hresponse, -⟩ | ⟨loss, -, r, engine, e, hparse, hopen, hfails, hloss⟩ :=
      desk.answers_or_loses text
    · exact ⟨response, hresponse⟩
    · have hback :=
        (hkeeps r hparse).comesBack (Desk.parse_portable hparse) hopen e hfails.answer_eq
      simp [hloss] at hback
  intro response h
  have hform := ((hanswers response).1 h).form
  refine ⟨hform.imp_left And.left, ?_⟩
  rcases hform with ⟨hok, hcode⟩ | ⟨hok, hcode, -, -⟩ <;> simp [hok, hcode]

end

/-- An envelope that asks to replace matches that start anew in the character before them, so that
the second one starts inside the first one. -/
def overlapping : String :=
  "\x7b\"type\":\"replace\",\"regexes\":[\x7b\"id\":1,\"pattern\":\"(?<=\\\\Ka)a\"," ++
    "\"modifiers\":\"\",\"delimiters\":\"\",\"replace\":\"X\",\"transformWhiteSpace\":false\x7d]," ++
    "\"samplestrings\":[\"aaa\"],\"chainRegexes\":false\x7d"

/-- An envelope that is accepted, and never answered. -/
theorem Desk.respond_lost :
    ∃ registry, Registry.builtin = .ok registry ∧
      (∃ r, Desk.parse ⟨registry, "fancy-regex", .standard⟩ overlapping.toList = .ok r) ∧
      ∀ response,
        Desk.respond ⟨registry, "fancy-regex", .standard⟩ overlapping.toList ≠ .ok response := by
  have hruns : Registry.builtin.toOption.map (fun registry =>
      ((Desk.parse ⟨registry, "fancy-regex", .standard⟩ overlapping.toList).toOption.isSome,
        (Desk.respond ⟨registry, "fancy-regex", .standard⟩ overlapping.toList).toOption.isNone)) =
      some (true, true) := by
    decide +kernel
  obtain ⟨registry, hregistry, hdesk⟩ := Option.map_eq_some_iff.1 hruns
  obtain ⟨haccepted, hlost⟩ := Prod.mk.inj hdesk
  obtain ⟨r, hparse⟩ := Option.isSome_iff_exists.1 haccepted
  have hnone : ∀ response, Desk.respond ⟨registry, "fancy-regex", .standard⟩
      overlapping.toList ≠ .ok response := by
    intro response hresponse
    simp [hresponse, Except.toOption] at hlost
  exact ⟨registry, toOption_eq_some.1 hregistry, ⟨r, toOption_eq_some.1 hparse⟩, hnone⟩

end Envelope

end RegexGateway
