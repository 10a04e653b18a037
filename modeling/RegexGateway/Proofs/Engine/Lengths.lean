import RegexGateway.Proofs.Engine.Loopback
import RegexGateway.Proofs.Engine.Pending

namespace RegexGateway

open Json

variable {σ : Type}

namespace Reply

variable {α β : Type} {P : α → Prop} {Q : β → Prop}

/-- Every value that a reply gives has a property. -/
def Ensures (reply : Reply σ α) (P : α → Prop) : Prop :=
  ∀ (before after : σ) (a : α), reply.run.run before = (.ok a, after) → P a

theorem ensures_pure {a : α} (h : P a) : (pure a : Reply σ α).Ensures P := by
  intro before after b hb
  obtain rfl := Except.ok.inj (Prod.mk.inj hb).1
  exact h

theorem ensures_throw (e : EngineError) : (throw e : Reply σ α).Ensures P := by
  intro before after b hb
  exact nomatch (Prod.mk.inj hb).1

theorem ensures_lift {x : StateM σ α} (h : ∀ before, P (x.run before).1) :
    (liftM x : Reply σ α).Ensures P := by
  intro before after a ha
  obtain rfl : (x.run before).1 = a := Except.ok.inj (Prod.mk.inj ha).1
  exact h before

theorem Ensures.bind {reply : Reply σ α} {f : α → Reply σ β} (h : reply.Ensures P)
    (hf : ∀ a, P a → (f a).Ensures Q) : (reply >>= f).Ensures Q := by
  intro before after b hb
  rw [ExceptT.run_bind, StateT.run_bind] at hb
  cases hrun : reply.run.run before with
  | mk result between =>
    rw [hrun] at hb
    cases result with
    | error e => exact nomatch (Prod.mk.inj hb).1
    | ok a => exact hf a (h before between a hrun) between after b hb

theorem Reports.ensures {R : α → α → Prop} {engine : String} {run : Except RunFault α}
    {reply : Reply σ α} (h : Reports R engine run reply)
    (hrun : ∀ a b, run = .ok a → R a b → P b) : reply.Ensures P := by
  cases h with
  | answer hab => exact ensures_pure (hrun _ _ rfl hab)
  | fault fault => exact ensures_throw _

end Reply

namespace MatchConfig

variable {c : MatchConfig}

theorem length_clip_le (h : c.settings.truncate) (length : Nat) (text : List Char) :
    (c.clip length text).length ≤ length := by
  rw [clip, if_pos h]
  exact Text.length_truncate_le length text

theorem presentOccurrence_within (h : c.settings.truncate) (m : Occurrence) :
    (c.presentOccurrence m).Within c.settings.lengths where
  whole := length_clip_le h _ _
  parts key text hpart := by
    obtain ⟨⟨k, captured⟩, -, hcaptured⟩ := List.mem_map.1 hpart
    obtain ⟨-, htext⟩ := Prod.mk.inj hcaptured
    obtain ⟨whole, -, rfl⟩ := Option.map_eq_some_iff.1 htext
    exact length_clip_le h _ _

end MatchConfig

theorem PatternOutcome.present_within {c : MatchConfig} (h : c.settings.truncate)
    (o : PatternOutcome) : (o.present c).Within c.settings.lengths := by
  intro m hm
  obtain ⟨m, -, rfl⟩ := List.mem_map.1 hm
  exact MatchConfig.presentOccurrence_within h m

theorem SampleMatches.shown_within {c : MatchConfig} (h : c.settings.truncate)
    (s : SampleMatches) : (s.shown c).Within c.settings.lengths where
  sample := MatchConfig.length_clip_le h _ _
  outcomes o ho := by
    obtain ⟨o, -, rfl⟩ := List.mem_map.1 ho
    exact o.present_within h

theorem SampleMatches.present_within {c : MatchConfig} (h : c.settings.truncate)
    {s : SampleMatches} (hsample : s.sample.length ≤ c.settings.sampleLength) :
    (s.present c).Within c.settings.lengths where
  sample := hsample
  outcomes o ho := by
    obtain ⟨o, -, rfl⟩ := List.mem_map.1 ho
    exact o.present_within h

theorem Runner.matchSamples_within {r : Runner} {c : MatchConfig} {patterns : List PatternRecord}
    {samples : List (List Char)} {found : List SampleMatches} (h : c.settings.truncate)
    (hfound : r.matchSamples c patterns samples = .ok found) :
    ∀ m ∈ found, m.Within c.settings.lengths := by
  rw [matchSamples, Batch.matchFrom_eq_map Batch.matchSample_plain, map_eq_ok] at hfound
  obtain ⟨plain, -, rfl⟩ := hfound
  intro m hm
  obtain ⟨s, -, rfl⟩ := List.mem_map.1 hm
  exact s.shown_within h

namespace Engine

variable {caps : Capabilities}

theorem conclude_reached {e : Engine σ} (he : e.state.Reached caps)
    (result : Except EngineError Validity) :
    (e.conclude result).2.backend = e.backend ∧ (e.conclude result).2.state.Reached caps := by
  cases result with
  | ok v => exact ⟨rfl, he.capabilities, he.config⟩
  | error e => exact ⟨rfl, he⟩

theorem change_ensures (e : Engine σ) (he : e.state.Reached caps) (c : EngineChange) :
    (e.change c).Ensures fun next => next.backend = e.backend ∧ next.state.Reached caps := by
  obtain ⟨hcaps, hconfig⟩ := he
  cases c with
  | setting update => exact Reply.ensures_pure ⟨rfl, hcaps, hconfig.set update⟩
  | settings settings => exact Reply.ensures_pure ⟨rfl, hcaps, hconfig.apply settings⟩
  | defaults defaults => exact Reply.ensures_pure ⟨rfl, hcaps, hconfig⟩
  | test regex modifiers delimiters =>
    refine (Reply.ensures_lift fun before => ?_).bind fun answer => Reply.ensures_pure
    rw [test_eq]
    exact conclude_reached ⟨hcaps, hconfig⟩ _

theorem after_ensures (e : Engine σ) (he : e.state.Reached caps) (history : List EngineChange) :
    (e.after history).Ensures fun now => now.backend = e.backend ∧ now.state.Reached caps := by
  induction history generalizing e with
  | nil => exact Reply.ensures_pure ⟨rfl, he⟩
  | cons c rest ih =>
    refine (e.change_ensures he c).bind ?_
    rintro next ⟨hbackend, hnext⟩
    rw [← hbackend]
    exact ih next hnext

end Engine

theorem PatternOutcome.Portable.of_present {c : MatchConfig} {o : PatternOutcome}
    (h : (o.present c).Portable) : o.Portable where
  regexId := h.regexId
  validity := h.validity
  occurrences m hm := h.occurrences (c.presentOccurrence m) (List.mem_map_of_mem hm)
  duration := h.duration

theorem SampleMatches.Portable.of_present {c : MatchConfig} {s : SampleMatches}
    (h : (s.present c).Portable) : s.Portable where
  sampleId := h.sampleId
  outcomes o ho := .of_present (h.outcomes (o.present c) (List.mem_map_of_mem ho))
  duration := h.duration

/-- What is asked of a handler in search of matches, and what it answers, without numbers that are
too large for words. -/
structure Handler.Exchanges (h : Handler) (c : MatchConfig) (samples : List (List Char))
    (records : List PatternRecord) : Prop where
  settings : c.settings.Portable
  recordIds : ∀ record ∈ records, record.Portable
  answer : ∀ found, h.runner.matchSamples c records samples = .ok found → ∀ m ∈ found, m.Portable

theorem Handler.Exchanges.hideBlanks {h : Handler} {c : MatchConfig} {samples : List (List Char)}
    {records : List PatternRecord} (hc : h.Exchanges c samples records) :
    h.Exchanges c.hideBlanks samples records where
  settings := ⟨hc.settings.partLength, hc.settings.wholeLength, hc.settings.sampleLength⟩
  recordIds := hc.recordIds
  answer := by
    intro hidden hrun
    have hanswer := hc.answer
    rw [Runner.matchSamples_hideBlanks, hrun] at hanswer
    have hshown := hanswer _ rfl
    split at hshown
    · intro m hm
      exact .of_present (hshown _ (List.mem_map_of_mem hm))
    · exact hshown

namespace EngineState

theorem configFor_lengths (s : EngineState) (chain : Option Bool) :
    (s.configFor chain).settings.lengths = s.config.settings.lengths := by
  cases chain <;> rfl

theorem configFor_truncate (s : EngineState) (chain : Option Bool) :
    (s.configFor chain).settings.truncate = s.config.settings.truncate := by
  cases chain <;> rfl

end EngineState

namespace Engine

variable {h : Handler} {s : EngineState}

/-- The texts of all matches that an engine finds keep to lengths. If it asks a handler, what goes
over the transport has to fit into words. -/
def KeepsTo (e : Engine σ) (h : Handler) (l : Lengths) : Prop :=
  ∀ samples records chain,
    (e.backend = .inProcess h.dialect ∨
      h.Exchanges (e.state.configFor chain) samples records) →
    (e.matchSamples samples records chain).Ensures fun found => ∀ m ∈ found, m.Within l

theorem KeepsTo.mono {e : Engine σ} {l l' : Lengths} (he : e.KeepsTo h l) (hl : l.Le l') :
    e.KeepsTo h l' := by
  intro samples records chain hnumbers before after found hfound m hm
  exact (he samples records chain hnumbers before after found hfound m hm).mono hl

theorem near_keepsTo (htruncate : s.config.settings.truncate) :
    (near h s : Engine σ).KeepsTo h s.config.settings.lengths := by
  rintro samples records chain -
  rw [← s.configFor_lengths chain]
  rw [← s.configFor_truncate chain] at htruncate
  have hnear : (near h s : Engine σ).matchSamples samples records chain =
      .ofRun ((s.runner h.dialect).matchSamples (s.configFor chain) records samples) := rfl
  rw [hnear]
  cases hrun : (s.runner h.dialect).matchSamples (s.configFor chain) records samples with
  | error fault => exact Reply.ensures_throw _
  | ok found => exact Reply.ensures_pure (Runner.matchSamples_within htruncate hrun)

theorem far_keepsTo (hs : s.Reached h.capabilities) (htruncate : s.config.settings.truncate) :
    (far h s : Engine σ).KeepsTo h s.config.settings.lengths := by
  rintro samples records chain (hbackend | hexchanges)
  · cases hbackend
  change h.Exchanges (s.configFor chain) samples records at hexchanges
  have hderived := hs.config.configFor chain
  rw [← s.configFor_lengths chain]
  rw [← s.configFor_truncate chain] at htruncate
  rw [matchSamples_far_eq]
  generalize s.configFor chain = c at hexchanges hderived htruncate ⊢
  obtain ⟨hsettings, hrecords, hanswer⟩ := hexchanges.hideBlanks
  have hreports := call_findMatches (σ := σ) s hderived.hideBlanks hsettings hrecords hanswer
  have hreceived : (s.call (h.loopback : Transport σ) SampleMatches.codec.list
      (.findMatches ⟨c.hideBlanks.settings, samples, records⟩)).Ensures fun found =>
        ∀ m ∈ found, m.Within c.settings.lengths := by
    refine hreports.ensures ?_
    intro found found' hrun hsent
    have hfound : ∀ m ∈ found, m.Within c.settings.lengths :=
      Runner.matchSamples_within (c := c.hideBlanks) htruncate hrun
    exact Codec.forall_mem_of_forall₂ hsent (fun _ _ hm => hm.within _) hfound
  refine hreceived.bind ?_
  intro found hfound
  apply Reply.ensures_pure
  split
  · intro m hm
    obtain ⟨hidden, hhidden, rfl⟩ := List.mem_map.1 hm
    exact SampleMatches.present_within htruncate (hfound hidden hhidden).sample
  · exact hfound

/-- An engine that was just opened from a handler's table: it runs the handler's dialect itself, or
it asks the handler. -/
def OpenedFrom (e : Engine σ) (h : Handler) : Prop :=
  e = withDialect h.capabilities h.dialect ∨ ofRemoteTable h.capabilities h.loopback = .ok e

theorem OpenedFrom.eq {e : Engine σ} (he : e.OpenedFrom h) :
    e = near h (.ofTable h.capabilities) ∨ e = far h (.ofTable h.capabilities) := by
  rcases he with rfl | hremote
  · exact .inl rfl
  · unfold ofRemoteTable at hremote
    split at hremote
    · contradiction
    · exact .inr (Except.ok.inj hremote).symm

theorem keepsTo_of_backend {e : Engine σ}
    (hbackend : e.backend = .inProcess h.dialect ∨ e.backend = .remote h.loopback)
    (hs : e.state.Reached h.capabilities) (htruncate : e.state.config.settings.truncate) :
    e.KeepsTo h e.state.config.settings.lengths := by
  obtain ⟨s, backend⟩ := e
  rcases hbackend with rfl | rfl
  · exact near_keepsTo htruncate
  · exact far_keepsTo hs htruncate

end Engine

/-- Texts are cut, and a caller cannot change that. -/
def MatchConfig.CutsAlways (c : MatchConfig) : Prop :=
  c.settings.truncate ∧ c.limits.truncateOptional = false

theorem MatchConfig.Derived.truncate_of_cutsAlways {base c : MatchConfig} (h : Derived base c)
    (hbase : base.CutsAlways) : c.settings.truncate :=
  (h.truncate hbase.2).trans hbase.1

theorem MatchConfig.Derived.lengths_le {base c : MatchConfig} (h : Derived base c) :
    c.settings.lengths.Le base.limits.lengths :=
  h.limits ▸ h.bounded.lengths_le

theorem Handler.handle_findMatches {h : Handler} (hbounded : h.capabilities.config.Bounded)
    (hcuts : h.capabilities.config.CutsAlways) {text response : String} {p : MatchPayload}
    (hrequest : RemoteRequest.codec.ofString text = .ok (.findMatches p))
    (hresponse : h.handle text = .ok response) :
    ∃ found, response = (SampleMatches.codec.list.encode found).sorted.compact ∧
      ∀ m ∈ found, m.Within h.capabilities.config.limits.lengths := by
  have hderived := hbounded.derived.apply p.settings
  rw [handle, hrequest] at hresponse
  obtain ⟨request, hread, hanswer⟩ := bind_eq_ok.1 hresponse
  obtain rfl := Except.ok.inj hread
  obtain ⟨json, hjson, hwritten⟩ := bind_eq_ok.1 hanswer
  obtain ⟨found, hfound, rfl⟩ := map_eq_ok.1 (mapError_eq_ok.1 hjson)
  refine ⟨found, (Except.ok.inj hwritten).symm, ?_⟩
  intro m hm
  exact (Runner.matchSamples_within (hderived.truncate_of_cutsAlways hcuts) hfound m hm).mono
    hderived.lengths_le

namespace Engine

/-- How long texts are that come with matches. An engine that was opened from an accepted table, and
any history of calls, leads to settings within the table's limits, and while it cuts texts all that
it shows of matches keeps to them. Where a table cuts always, nothing that an engine or a handler
shows is longer than its limits, whatever it was told or asked. -/
theorem lengths_bounded {spec : EngineSpec} {caps : Capabilities}
    (hspec : Capabilities.ofSpec spec = .ok caps) (d : Dialect) :
    (∀ e : Engine σ, e.OpenedFrom ⟨caps, d⟩ → ∀ history, (e.after history).Ensures fun now =>
      now.state.config.settings.lengths.Le caps.config.limits.lengths ∧
      (now.state.config.settings.truncate →
        now.KeepsTo ⟨caps, d⟩ now.state.config.settings.lengths) ∧
      (caps.config.CutsAlways → now.KeepsTo ⟨caps, d⟩ caps.config.limits.lengths)) ∧
    (caps.config.CutsAlways → ∀ text p response,
      RemoteRequest.codec.ofString text = .ok (.findMatches p) →
      (Handler.mk caps d).handle text = .ok response →
      ∃ found, response = (SampleMatches.codec.list.encode found).sorted.compact ∧
        ∀ m ∈ found, m.Within caps.config.limits.lengths) := by
  have hbounded := Capabilities.ofSpec_bounded hspec
  constructor
  · intro e he history
    have hstart : (e.backend = .inProcess d ∨ e.backend = .remote (Handler.mk caps d).loopback) ∧
        e.state.Reached caps := by
      rcases he.eq with rfl | rfl
      · exact ⟨.inl rfl, rfl, hbounded.derived⟩
      · exact ⟨.inr rfl, rfl, hbounded.derived⟩
    obtain ⟨hbackend, hreached⟩ := hstart
    intro before after now hnow
    obtain ⟨hsame, hs⟩ := e.after_ensures hreached history before after now hnow
    rw [← hsame] at hbackend
    have hle := hs.config.lengths_le
    refine ⟨hle, keepsTo_of_backend hbackend hs, ?_⟩
    intro hcuts
    exact (keepsTo_of_backend hbackend hs (hs.config.truncate_of_cutsAlways hcuts)).mono hle
  · intro hcuts text p response hrequest hresponse
    exact Handler.handle_findMatches (h := ⟨caps, d⟩) hbounded hcuts hrequest hresponse

theorem lengths_bounded_words :
    Capabilities.ofSpec .words = .ok .words ∧ Capabilities.words.config.CutsAlways ∧
    ∃ (now : Engine Unit) (entry : SampleMatches),
      (withDialect .words .literal).after
        [.setting (.truncate false), .setting (.wholeLength 300), .setting (.showBlanks true)] =
        pure now ∧
      now.matchSamples [[' ', ' ', ' ']] [⟨1, [' ', ' ', ' '], [], none, [], false⟩] none =
        pure [entry] ∧
      entry.outcomes = [⟨1, .valid, .zero, [⟨"[space][space][space".toList, [], 0⟩]⟩] ∧
      entry.Within Capabilities.words.config.limits.lengths := by
  have hcuts : Capabilities.words.config.CutsAlways := ⟨rfl, rfl⟩
  obtain ⟨hengines, -⟩ := lengths_bounded (σ := Unit) Capabilities.ofSpec_words .literal
  have hafter : ∃ now : Engine Unit, (withDialect .words .literal).after
      [.setting (.truncate false), .setting (.wholeLength 300), .setting (.showBlanks true)] =
      pure now ∧ now.backend = .inProcess .literal ∧ ∃ entry,
      now.matchSamples [[' ', ' ', ' ']] [⟨1, [' ', ' ', ' '], [], none, [], false⟩] none =
        pure [entry] ∧
      entry.outcomes = [⟨1, .valid, .zero, [⟨"[space][space][space".toList, [], 0⟩]⟩] :=
    ⟨_, rfl, rfl, _, rfl, by decide⟩
  obtain ⟨now, hnow, hbackend, entry, hfound, houtcomes⟩ := hafter
  obtain ⟨-, -, hkeeps⟩ := hengines _ (.inl rfl) _ () () now (by rw [hnow]; rfl)
  have hwithin := hkeeps hcuts _ _ none (.inl hbackend) () () [entry] (by rw [hfound]; rfl)
  exact ⟨Capabilities.ofSpec_words, hcuts, now, entry, hnow, hfound, houtcomes,
    hwithin entry (List.mem_singleton.2 rfl)⟩

end Engine

end RegexGateway
