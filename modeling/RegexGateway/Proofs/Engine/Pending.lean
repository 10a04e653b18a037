import RegexGateway.Engine.Operations
import RegexGateway.Proofs.Dialect.Literal
import RegexGateway.Proofs.Except

namespace RegexGateway

variable {σ : Type}

inductive Call where
  | test (regex : List Char) (modifiers : Option (List Char)) (delimiters : Option DelimiterPair)
  | lastError (regexId : Int)
  | testAll (patterns : List PatternRecord)
  | matchSamples (samples : List (List Char)) (patterns : List PatternRecord) (chain : Option Bool)
  | replace (samples : List (List Char)) (patterns : List PatternRecord)
  | setting (update : SettingUpdate)
  | settings (settings : MatchSettings)
  | defaults (defaults : Defaults)

inductive Answer where
  | tested (valid : Bool)
  | lastError (error : PatternError)
  | verdicts (outcomes : List TestOutcome)
  | found (samples : List SampleMatches)
  | replaced (samples : List ReplacedSample)
  | changed
  | failed (error : EngineError)

namespace Answer

def ofResult {α : Type} (make : α → Answer) : Except EngineError α → Answer
  | .ok a => make a
  | .error error => failed error

end Answer

namespace Engine

/-- Makes a call. A test says itself which engine it leaves; questions do not change the engine. -/
def perform (e : Engine σ) : Call → StateM σ (Answer × Engine σ)
  | .test regex modifiers delimiters => do
    let (result, next) ← e.test regex modifiers delimiters
    return (.ofResult .tested result, next)
  | .lastError regexId => return (.ofResult .lastError (e.state.lastError regexId), e)
  | .testAll patterns => return (.ofResult .verdicts (← (e.testAll patterns).run), e)
  | .matchSamples samples patterns chain =>
    return (.ofResult .found (← (e.matchSamples samples patterns chain).run), e)
  | .replace samples patterns =>
    return (.ofResult .replaced (← (e.replace samples patterns).run), e)
  | .setting update => return (.changed, e.setSetting update)
  | .settings settings => return (.changed, e.applySettings settings)
  | .defaults defaults => return (.changed, e.setDefaults defaults)

end Engine

/-- A call in a session: the engine that it is made to, in which state of the world, and what comes
of it. -/
structure Turn (σ : Type) where
  engine : Engine σ
  world : σ
  call : Call
  answer : Answer
  next : Engine σ
  nextWorld : σ

namespace Engine

def turn (e : Engine σ) (world : σ) (call : Call) : Turn σ :=
  let done := (e.perform call).run world
  ⟨e, world, call, done.1.1, done.1.2, done.2⟩

/-- What an engine finds out about a record in a state of the world. -/
def finding (e : Engine σ) (world : σ) (record : PatternRecord) : Except EngineError Validity :=
  ((e.validity record).run.run world).1

/-- The turns of a session. -/
def session (e : Engine σ) (world : σ) : List Call → List (Turn σ)
  | [] => []
  | call :: rest =>
    let t := e.turn world call
    t :: t.next.session t.nextWorld rest

end Engine

namespace Turn

def verdict? (t : Turn σ) : Option Validity :=
  match t.call with
  | .test regex modifiers delimiters =>
    (t.engine.finding t.world
      (t.engine.state.recordToTest regex modifiers delimiters)).toOption
  | _ => none

/-- The last of all verdicts. -/
def latestVerdict (turns : List (Turn σ)) : Option Validity := (turns.filterMap verdict?).getLast?

end Turn

namespace EngineState

variable {α : Type} (s : EngineState)

def response (transport : Transport σ) (world : σ) (record : PatternRecord) :
    Except TransportFault String :=
  ((transport (RemoteRequest.codec.toString (s.testRequest record))).run world).1

def read (codec : Json.Codec α) (action : Action) :
    Except TransportFault String → Except EngineError α
  | .error fault => .error (.remote s.capabilities.id (.transport fault))
  | .ok response =>
    (codec.ofString response).mapError fun e => .remote s.capabilities.id (.unreadable action e)

theorem call_run (transport : Transport σ) (codec : Json.Codec α) (request : RemoteRequest) :
    (s.call transport codec request).run =
      s.read codec request.action <$> transport (RemoteRequest.codec.toString request) := by
  rw [call, ExceptT.run_bind, ExceptT.run_liftM, bind_map_left, ← bind_pure_comp]
  refine bind_congr fun result => ?_
  cases result with
  | error fault => rfl
  | ok response => cases hread : codec.ofString response <;> simp [read, hread]

end EngineState

/-- The calls that run patterns. -/
def Call.Runs : Call → Prop
  | .testAll _ | .matchSamples _ _ _ | .replace _ _ => True
  | _ => False

def Call.Changes : Call → Prop
  | .setting _ | .settings _ | .defaults _ => True
  | _ => False

/-- What a turn does, by its call and by what came back. Only a test that found a verdict touches
the pending error, and of the others only changes leave another engine. -/
inductive Turn.Does (t : Turn σ) : Prop where
  | tested {regex : List Char} {modifiers : Option (List Char)}
      {delimiters : Option DelimiterPair} {v : Validity}
      (hcall : t.call = .test regex modifiers delimiters) (hverdict : t.verdict? = some v)
      (hanswer : t.answer = .tested v.error?.isNone)
      (hnext : t.next = { t.engine with state.pending := v.error? })
  | undelivered {regex : List Char} {modifiers : Option (List Char)}
      {delimiters : Option DelimiterPair} {transport : Transport σ} {fault : TransportFault}
      (hcall : t.call = .test regex modifiers delimiters)
      (hbackend : t.engine.backend = .remote transport)
      (hresponse : t.engine.state.response transport t.world
        (t.engine.state.recordToTest regex modifiers delimiters) = .error fault)
      (hverdict : t.verdict? = none)
      (hanswer : t.answer = .failed (.remote t.engine.state.capabilities.id (.transport fault)))
      (hnext : t.next = t.engine)
  | unreadable {regex : List Char} {modifiers : Option (List Char)}
      {delimiters : Option DelimiterPair} {transport : Transport σ} {response : String}
      {error : Json.DecodeError} (hcall : t.call = .test regex modifiers delimiters)
      (hbackend : t.engine.backend = .remote transport)
      (hresponse : t.engine.state.response transport t.world
        (t.engine.state.recordToTest regex modifiers delimiters) = .ok response)
      (hread : Validity.codec.ofString response = .error error) (hverdict : t.verdict? = none)
      (hanswer : t.answer =
        .failed (.remote t.engine.state.capabilities.id (.unreadable .test error)))
      (hnext : t.next = t.engine)
  | asked {regexId : Int} (hcall : t.call = .lastError regexId) (hverdict : t.verdict? = none)
      (hanswer : t.answer = .ofResult .lastError (t.engine.state.lastError regexId))
      (hnext : t.next = t.engine)
  | ran (hcall : t.call.Runs) (hverdict : t.verdict? = none) (hnext : t.next = t.engine)
  | changed (hcall : t.call.Changes) (hverdict : t.verdict? = none)
      (hanswer : t.answer = .changed)
      (hpending : t.next.state.pending = t.engine.state.pending)

namespace Engine

variable {e : Engine σ} {regex : List Char} {modifiers : Option (List Char)}
  {delimiters : Option DelimiterPair}

def conclude (e : Engine σ) : Except EngineError Validity → Except EngineError Bool × Engine σ
  | .ok v => (.ok v.error?.isNone, { e with state.pending := v.error? })
  | .error error => (.error error, e)

theorem test_eq :
    e.test regex modifiers delimiters =
      e.conclude <$> (e.validity (e.state.recordToTest regex modifiers delimiters)).run := by
  rw [test, ← bind_pure_comp]
  refine bind_congr fun result => ?_
  cases result <;> rfl

theorem finding_inProcess {dialect : Dialect} (h : e.backend = .inProcess dialect) (world : σ)
    (record : PatternRecord) :
    e.finding world record = .ok (.ofResult ((e.state.runner dialect).compile record)) := by
  rw [finding, validity, h]
  rfl

theorem finding_remote {transport : Transport σ} (h : e.backend = .remote transport) (world : σ)
    (record : PatternRecord) :
    e.finding world record =
      e.state.read Validity.codec .test (e.state.response transport world record) := by
  rw [finding, validity, h]
  simp only [EngineState.call_run]
  rfl

theorem turn_test {world : σ} {result : Except EngineError Validity}
    (h : e.finding world (e.state.recordToTest regex modifiers delimiters) = result) :
    (e.turn world (.test regex modifiers delimiters)).verdict? = result.toOption ∧
      (e.turn world (.test regex modifiers delimiters)).answer =
        .ofResult .tested (e.conclude result).1 ∧
      (e.turn world (.test regex modifiers delimiters)).next = (e.conclude result).2 := by
  subst h
  rw [turn, perform, test_eq]
  exact ⟨rfl, rfl, rfl⟩

theorem test_does (world : σ) : (e.turn world (.test regex modifiers delimiters)).Does := by
  cases hbackend : e.backend with
  | inProcess dialect =>
    obtain ⟨hverdict, hanswer, hnext⟩ := turn_test (finding_inProcess hbackend world _)
    exact .tested rfl hverdict hanswer hnext
  | remote transport =>
    have hfinding := finding_remote hbackend world (e.state.recordToTest regex modifiers delimiters)
    cases hresponse : e.state.response transport world
        (e.state.recordToTest regex modifiers delimiters) with
    | error fault =>
      rw [hresponse] at hfinding
      obtain ⟨hverdict, hanswer, hnext⟩ := turn_test hfinding
      exact .undelivered rfl hbackend hresponse hverdict hanswer hnext
    | ok response =>
      rw [hresponse, EngineState.read] at hfinding
      cases hread : Validity.codec.ofString response with
      | ok v =>
        rw [hread] at hfinding
        obtain ⟨hverdict, hanswer, hnext⟩ := turn_test hfinding
        exact .tested rfl hverdict hanswer hnext
      | error error =>
        rw [hread] at hfinding
        obtain ⟨hverdict, hanswer, hnext⟩ := turn_test hfinding
        exact .unreadable rfl hbackend hresponse hread hverdict hanswer hnext

theorem turn_does (e : Engine σ) (world : σ) (call : Call) : (e.turn world call).Does := by
  cases call with
  | test regex modifiers delimiters => exact test_does world
  | lastError regexId => exact .asked rfl rfl rfl rfl
  | testAll patterns => exact .ran trivial rfl rfl
  | matchSamples samples patterns chain => exact .ran trivial rfl rfl
  | replace samples patterns => exact .ran trivial rfl rfl
  | setting update => exact .changed trivial rfl rfl rfl
  | settings settings => exact .changed trivial rfl rfl rfl
  | defaults defaults => exact .changed trivial rfl rfl rfl

end Engine

namespace Turn

/-- A turn leaves the error of its verdict pending, or what was pending before it. -/
theorem Does.pending {t : Turn σ} (h : t.Does) :
    t.next.state.pending = t.verdict?.elim t.engine.state.pending Validity.error? := by
  cases h with
  | tested _ hverdict _ hnext => rw [hverdict, hnext]; rfl
  | undelivered _ _ _ hverdict _ hnext => rw [hverdict, hnext]; rfl
  | unreadable _ _ _ _ hverdict _ hnext => rw [hverdict, hnext]; rfl
  | asked _ hverdict _ hnext => rw [hverdict, hnext]; rfl
  | ran _ hverdict hnext => rw [hverdict, hnext]; rfl
  | changed _ hverdict _ hpending => rw [hverdict, hpending]; rfl

theorem Does.lastError {t : Turn σ} (h : t.Does) {regexId : Int}
    (hcall : t.call = .lastError regexId) :
    t.answer = .ofResult .lastError (t.engine.state.lastError regexId) := by
  cases h with
  | tested hcall' => exact nomatch hcall.symm.trans hcall'
  | undelivered hcall' => exact nomatch hcall.symm.trans hcall'
  | unreadable hcall' => exact nomatch hcall.symm.trans hcall'
  | asked hcall' _ hanswer _ =>
    obtain rfl := Call.lastError.inj (hcall.symm.trans hcall')
    exact hanswer
  | ran hruns =>
    rw [hcall] at hruns
    exact False.elim hruns
  | changed hchanges =>
    rw [hcall] at hchanges
    exact False.elim hchanges

theorem latestVerdict_cons (t : Turn σ) (turns : List (Turn σ)) :
    latestVerdict (t :: turns) = (latestVerdict turns).or t.verdict? := by
  unfold latestVerdict
  cases hverdict : t.verdict? with
  | none => simp [hverdict]
  | some v => simp [hverdict, List.getLast?_cons, Option.or_some]

end Turn

namespace Engine

variable {e : Engine σ} {world : σ} {calls : List Call}

theorem session_calls : (e.session world calls).map (·.call) = calls := by
  induction calls generalizing e world with
  | nil => rfl
  | cons call rest ih => exact congrArg (call :: ·) ih

/-- What is pending at a turn is the error of the latest verdict before it or, before the first
verdict, what was pending at the start. -/
theorem session_pending {i : Nat} {t : Turn σ} (h : (e.session world calls)[i]? = some t) :
    t.Does ∧ t.engine.state.pending =
      (Turn.latestVerdict ((e.session world calls).take i)).elim e.state.pending
        Validity.error? := by
  induction calls generalizing e world i with
  | nil => simp [session] at h
  | cons call rest ih =>
    cases i with
    | zero =>
      obtain rfl : e.turn world call = t := Option.some.inj h
      exact ⟨turn_does e world call, rfl⟩
    | succ i =>
      obtain ⟨hdoes, hpending⟩ := ih h
      refine ⟨hdoes, hpending.trans ?_⟩
      rw [session, List.take_succ_cons, Turn.latestVerdict_cons, (turn_does e world call).pending]
      cases Turn.latestVerdict _ <;> rfl

/-- The error that an engine has for its caller is that of the latest test that found a verdict, if
it found one and the pattern could not be used, and has the number that was asked for. There is none
otherwise. No other call, and no test that found no verdict, has a part in it. -/
theorem lastError_latest (caps : Capabilities) (backend : Backend σ) (world : σ)
    (calls : List Call) :
    let turns := (Engine.mk (.ofTable caps) backend).session world calls
    turns.map (·.call) = calls ∧
    ∀ i t, turns[i]? = some t →
      t.Does ∧
      ∀ regexId, t.call = .lastError regexId →
        t.answer =
          match Turn.latestVerdict (turns.take i) with
          | some (.invalid error) => .lastError { error with regexId }
          | _ => .failed (.noPendingError regexId) := by
  intro turns
  refine ⟨session_calls, ?_⟩
  intro i t ht
  obtain ⟨hdoes, hpending⟩ := session_pending ht
  refine ⟨hdoes, ?_⟩
  intro regexId hcall
  rw [hdoes.lastError hcall, EngineState.lastError, hpending]
  cases Turn.latestVerdict (turns.take i) with
  | none => rfl
  | some v => cases v <;> rfl

def silent : Transport Unit := fun _ => pure (.error (.failed "no answer"))

theorem lastError_latest_words :
    (∃ t error, ((Engine.mk (.ofTable .words) (.inProcess .literal)).session ()
        [.test ['a'] (some ['x']) none, .replace [['a']] [], .setting (.chain false),
          .lastError 7])[3]? = some t ∧
      t.answer = .lastError error ∧ error.regexId = 7 ∧ error.badCharacter = some 'x') ∧
    ∃ t, ((Engine.mk (.ofTable .words) (.remote silent)).session ()
        [.test ['a'] (some ['x']) none, .lastError 7])[1]? = some t ∧
      t.answer = .failed (.noPendingError 7) := by
  constructor
  · obtain ⟨-, hturns⟩ := lastError_latest .words (.inProcess .literal) ()
      [.test ['a'] (some ['x']) none, .replace [['a']] [], .setting (.chain false), .lastError 7]
    obtain ⟨-, hanswer⟩ := hturns 3 _ rfl
    exact ⟨_, _, rfl, hanswer 7 rfl, rfl, rfl⟩
  · obtain ⟨-, hturns⟩ := lastError_latest .words (.remote silent) ()
      [.test ['a'] (some ['x']) none, .lastError 7]
    obtain ⟨-, hanswer⟩ := hturns 1 _ rfl
    exact ⟨_, rfl, hanswer 7 rfl⟩

end Engine

end RegexGateway
