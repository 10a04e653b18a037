import RegexGateway.Proofs.Batch.Ends
import RegexGateway.Proofs.Engine.Loopback

namespace RegexGateway

namespace Reply

variable {α β : Type}

def result (reply : Reply Unit α) : Except EngineError α := (reply.run.run ()).1

theorem result_map (f : α → β) (reply : Reply Unit α) :
    (f <$> reply).result = f <$> reply.result := by
  simp only [Reply.result, ExceptT.run_map, StateT.run_map]
  rfl

theorem result_bind (reply : Reply Unit α) (next : α → Reply Unit β) :
    (reply >>= next).result = reply.result >>= fun a => (next a).result := by
  simp only [Reply.result, ExceptT.run_bind, StateT.run_bind]
  generalize reply.run.run () = replied
  obtain ⟨answer, ⟨⟩⟩ := replied
  cases answer <;> rfl

/-- A reply that is not lost: it is an answer, or says why there is none. -/
def ComesBack (reply : Reply Unit α) : Prop :=
  ∀ e, reply.result = .error e → e.loss? = none

theorem comesBack_pure (a : α) : (pure a : Reply Unit α).ComesBack := nofun

theorem ComesBack.bind {reply : Reply Unit α} {next : α → Reply Unit β} (h : reply.ComesBack)
    (hnext : ∀ a, (next a).ComesBack) : (reply >>= next).ComesBack := by
  intro e he
  rw [result_bind] at he
  cases hreply : reply.result with
  | ok a =>
    rw [hreply] at he
    exact hnext a e he
  | error e' =>
    rw [hreply] at he
    obtain rfl := Except.error.inj he
    exact h e' hreply

theorem ComesBack.map {reply : Reply Unit α} (h : reply.ComesBack) (f : α → β) :
    (f <$> reply).ComesBack := by
  intro e he
  rw [result_map] at he
  exact h e (map_eq_error.1 he)

theorem comesBack_ofRun {run : Except RunFault α} (h : RegexGateway.ComesBack run) :
    (ofRun run : Reply Unit α).ComesBack := by
  cases run with
  | ok a => exact comesBack_pure a
  | error fault =>
    rintro _ ⟨⟩
    exact h fault rfl

end Reply

/-- The records of a request that are run. -/
def RemoteRequest.records : RemoteRequest → List PatternRecord
  | test _ => []
  | findMatches p => p.patterns
  | replace p => p.patterns

theorem Handler.comesBack_answer {h : Handler}
    (hh : h.dialect = .standard ∨ h.dialect = .fancy) {request : RemoteRequest}
    (hrequest : ∀ record ∈ request.records, h.runner.KeepsAhead record) :
    ComesBack (h.answer request) := by
  cases request with
  | test payload => exact comesBack_ok _
  | findMatches payload =>
    exact (Runner.comesBack_matchSamples hh hrequest _ _).bind fun _ => comesBack_ok _
  | replace payload =>
    exact (Runner.comesBack_replace hh hrequest _).bind fun _ => comesBack_ok _

theorem Handler.loopback_comesBack {h : Handler} {request : RemoteRequest}
    (hrequest : request.Portable) (hback : ComesBack (h.answer request)) {α : Type}
    (s : EngineState) (codec : Json.Codec α) :
    (s.call (h.loopback : Transport Unit) codec request).ComesBack := by
  cases hanswer : h.answer request with
  | error fault =>
    rw [s.call_loopback_fault hrequest hanswer]
    rintro _ ⟨⟩
    have hloss : (HandlerError.run fault).loss? = none := hback fault hanswer
    simp only [EngineError.loss?, HandlerError.toTransport, hloss, TransportFault.loss?]
  | ok json =>
    have hhandle := h.handle_toString hrequest
    rw [hanswer] at hhandle
    rw [EngineState.call, Handler.loopback, hhandle]
    intro e he
    simp only [mapError_ok, Except.map, liftM_pure, pure_bind] at he
    cases hread : codec.ofString json.sorted.compact with
    | ok a => simp [hread, Reply.result] at he
    | error error =>
      rw [hread] at he
      obtain rfl := Except.error.inj he
      rfl

namespace Engine

variable {caps : Capabilities} {e : Engine Unit}

/-- An engine that was opened for a table, and still has the table's defaults. -/
structure OpenedFor (e : Engine Unit) (caps : Capabilities) : Prop where
  capabilities : e.state.capabilities = caps
  defaults : e.state.defaults = caps.defaults
  backend : e.backend = .inProcess caps.dialect.nearest ∨
    e.backend = .remote (Handler.ofTable caps).loopback

theorem openedFor_of_ofTable (h : Engine.ofTable caps = .ok e) : e.OpenedFor caps := by
  unfold Engine.ofTable at h
  split at h
  · unfold ofLocalTable at h
    split at h
    · contradiction
    · split at h
      · rename_i dialect hdialect
        obtain rfl := Except.ok.inj h
        have hnearest : caps.dialect.nearest = dialect := by
          rw [DialectKind.nearest, hdialect, Option.getD_some]
        exact ⟨rfl, rfl, .inl (congrArg Backend.inProcess hnearest.symm)⟩
      · contradiction
  · unfold ofRemoteTable at h
    split at h
    · contradiction
    · obtain rfl := Except.ok.inj h
      exact ⟨rfl, rfl, .inr rfl⟩

theorem OpenedFor.runner_eq (he : e.OpenedFor caps) :
    e.state.runner caps.dialect.nearest = (Handler.ofTable caps).runner := by
  rw [EngineState.runner, he.capabilities, he.defaults]
  rfl

theorem OpenedFor.comesBack_validity (he : e.OpenedFor caps) (record : PatternRecord) :
    (e.validity record).ComesBack := by
  unfold validity
  rcases he.backend with hbackend | hbackend
  · rw [hbackend]
    exact Reply.comesBack_pure _
  · rw [hbackend]
    exact Handler.loopback_comesBack (.test _) (comesBack_ok _) e.state Validity.codec

theorem OpenedFor.comesBack_testAll (he : e.OpenedFor caps) (patterns : List PatternRecord) :
    (e.testAll patterns).ComesBack := by
  induction patterns with
  | nil => exact Reply.comesBack_pure []
  | cons record rest ih =>
    exact (he.comesBack_validity record).bind fun _ => ih.bind fun _ => Reply.comesBack_pure _

variable {patterns : List PatternRecord}

theorem OpenedFor.comesBack_matchSamples (he : e.OpenedFor caps)
    (hsettings : e.state.config.settings.Portable)
    (hportable : ∀ record ∈ patterns, record.Portable)
    (hkeeps : ∀ record ∈ patterns, (Handler.ofTable caps).runner.KeepsAhead record)
    (samples : List (List Char)) (chain : Option Bool) :
    (e.matchSamples samples patterns chain).ComesBack := by
  unfold matchSamples
  rcases he.backend with hbackend | hbackend
  · rw [hbackend]
    simp only [he.runner_eq]
    exact Reply.comesBack_ofRun
      (Runner.comesBack_matchSamples caps.dialect.nearest_eq hkeeps _ samples)
  · rw [hbackend]
    have hsent : (RemoteRequest.findMatches ⟨{ (e.state.configFor chain).settings with
        showBlanks := false }, samples, patterns⟩).Portable := by
      refine .findMatches _ ?_ hportable
      cases chain <;> exact ⟨hsettings.1, hsettings.2, hsettings.3⟩
    have hanswer : ComesBack ((Handler.ofTable caps).answer (.findMatches
        ⟨{ (e.state.configFor chain).settings with showBlanks := false }, samples, patterns⟩)) :=
      Handler.comesBack_answer caps.dialect.nearest_eq hkeeps
    exact (Handler.loopback_comesBack hsent hanswer e.state _).bind fun _ => Reply.comesBack_pure _

theorem OpenedFor.comesBack_replace (he : e.OpenedFor caps)
    (hportable : ∀ record ∈ patterns, record.Portable)
    (hkeeps : ∀ record ∈ patterns, (Handler.ofTable caps).runner.KeepsAhead record)
    (samples : List (List Char)) : (e.replace samples patterns).ComesBack := by
  unfold replace
  rcases he.backend with hbackend | hbackend
  · rw [hbackend]
    simp only [he.runner_eq]
    exact Reply.comesBack_ofRun
      (Runner.comesBack_replace caps.dialect.nearest_eq hkeeps samples)
  · rw [hbackend]
    have hanswer : ComesBack ((Handler.ofTable caps).answer (.replace ⟨samples, patterns⟩)) :=
      Handler.comesBack_answer caps.dialect.nearest_eq hkeeps
    exact Handler.loopback_comesBack (.replace _ hportable) hanswer e.state _

end Engine

end RegexGateway
