import RegexGateway.Proofs.Json.Record
import RegexGateway.Wire.Request

namespace RegexGateway

open Json

def IsWord (n : Nat) : Prop := n < UInt64.size

def IsSignedWord (n : Int) : Prop := -0x8000000000000000 ≤ n ∧ n < 0x8000000000000000

instance (n : Nat) : Decidable (IsWord n) := inferInstanceAs (Decidable (_ < _))

instance (n : Int) : Decidable (IsSignedWord n) := inferInstanceAs (Decidable (_ ∧ _))

variable {φ : Json → Json} {levels : Nat}

theorem DelimiterPair.carries (hφ : Arrangement φ) (pair : DelimiterPair) :
    DelimiterPair.codec.Carries φ (levels + 1) pair pair :=
  Shape.carries_self hφ (by decide) ⟨Codec.carries_char hφ pair.opening,
    Codec.carries_char hφ pair.closing, trivial⟩ rfl

structure MatchSettings.Portable (s : MatchSettings) : Prop where
  partLength : IsWord s.partLength
  wholeLength : IsWord s.wholeLength
  sampleLength : IsWord s.sampleLength

theorem MatchSettings.Portable.carries (hφ : Arrangement φ) {s : MatchSettings} (h : s.Portable) :
    MatchSettings.codec.Carries φ (levels + 1) s s :=
  Shape.carries_self hφ (by decide) ⟨Codec.carries_bool hφ s.chain,
    Codec.carries_nat hφ h.partLength, Codec.carries_nat hφ h.wholeLength,
    Codec.carries_nat hφ h.sampleLength, Codec.carries_bool hφ s.showBlanks,
    Codec.carries_bool hφ s.truncate, trivial⟩ rfl

def PatternRecord.Portable (r : PatternRecord) : Prop := IsSignedWord r.id

theorem PatternRecord.Portable.carries (hφ : Arrangement φ) {r : PatternRecord} (h : r.Portable) :
    PatternRecord.codec.Carries φ (levels + 2) r r := by
  have hdelimiters : DelimiterPair.codec.nullable.Carries φ (levels + 1) r.delimiters
      r.delimiters :=
    Codec.carries_nullable hφ (fun pair _ => pair.carries hφ) fun _ _ h => nomatch h
  exact Shape.carries_self hφ (by decide) ⟨Codec.carries_int hφ h.1 h.2,
    Codec.carries_text hφ r.regex, Codec.carries_text hφ r.modifiers, hdelimiters,
    Codec.carries_text hφ r.replacement, Codec.carries_bool hφ r.unescape, trivial⟩ rfl

/-- A request that fits: its settings and the numbers of its patterns are words. -/
inductive RemoteRequest.Portable : RemoteRequest → Prop where
  | test (p : TestPayload) : Portable (.test p)
  | findMatches (p : MatchPayload) (hsettings : p.settings.Portable)
      (hpatterns : ∀ r ∈ p.patterns, r.Portable) : Portable (.findMatches p)
  | replace (p : ReplacePayload) (hpatterns : ∀ r ∈ p.patterns, r.Portable) : Portable (.replace p)

theorem TestPayload.carries (hφ : Arrangement φ) (p : TestPayload) :
    TestPayload.codec.Carries φ (levels + 2) p p :=
  Shape.carries_self hφ (by decide) ⟨Codec.carries_text hφ p.regex,
    Codec.carries_text hφ p.modifiers, p.delimiters.carries hφ, trivial⟩ rfl

theorem MatchPayload.carries (hφ : Arrangement φ) {p : MatchPayload}
    (hsettings : p.settings.Portable) (hpatterns : ∀ r ∈ p.patterns, r.Portable) :
    MatchPayload.codec.Carries φ (levels + 4) p p :=
  Shape.carries_self hφ (by decide) ⟨hsettings.carries hφ,
    Codec.carries_list hφ fun text _ => Codec.carries_text hφ text,
    Codec.carries_list hφ fun r hr => (hpatterns r hr).carries hφ, trivial⟩ rfl

theorem ReplacePayload.carries (hφ : Arrangement φ) {p : ReplacePayload}
    (hpatterns : ∀ r ∈ p.patterns, r.Portable) :
    ReplacePayload.codec.Carries φ (levels + 4) p p :=
  Shape.carries_self hφ (by decide) ⟨
    Codec.carries_list hφ fun text _ => Codec.carries_text hφ text,
    Codec.carries_list hφ fun r hr => (hpatterns r hr).carries hφ, trivial⟩ rfl

namespace RemoteRequest

theorem Portable.payload {r : RemoteRequest} (h : r.Portable) :
    r.encodePayload.Readable 4 ∧ decodePayload .direct r.encodePayload.node r.action = .ok r := by
  cases h with
  | test p =>
    have hp : TestPayload.codec.Carries (fun j => j) 4 p p := p.carries .id
    exact ⟨hp.readable, by simp [decodePayload, encodePayload, action, hp.decode, Except.map]⟩
  | findMatches p hsettings hpatterns =>
    have hp : MatchPayload.codec.Carries (fun j => j) 4 p p :=
      MatchPayload.carries .id hsettings hpatterns
    exact ⟨hp.readable, by simp [decodePayload, encodePayload, action, hp.decode, Except.map]⟩
  | replace p hpatterns =>
    have hp : ReplacePayload.codec.Carries (fun j => j) 4 p p :=
      ReplacePayload.carries .id hpatterns
    exact ⟨hp.readable, by simp [decodePayload, encodePayload, action, hp.decode, Except.map]⟩

theorem decodeAction_name (action : Action) :
    decodeAction (.string (.ok action.name)) = .ok action := by
  cases action <;> rfl

theorem decodeFields_encode {r : RemoteRequest} {payload : Node}
    (h : decodePayload .direct payload r.action = .ok r) :
    decodeFields (.field (.ok actionField) (.string (.ok r.action.name))
      (.field (.ok payloadField) payload .close)) = .ok r := by
  simp [decodeFields, seekField, decodeAction_name, finish, h, actionField,
    payloadField, bind, Except.bind, pure, Except.pure]

theorem Portable.ofString_toString {r : RemoteRequest} (h : r.Portable) :
    codec.ofString (codec.toString r) = .ok r := by
  obtain ⟨hpayload, hdecode⟩ := h.payload
  have hread : r.encode.Readable 5 := by simp [encode, Readable, ReadableFields, hpayload]
  have htext : Document.ofText (codec.toString r) = ⟨r.encode.node, false⟩ :=
    Document.ofText_compact hread (by decide)
  have hroot : codec.decode .direct r.encode.node = .ok r := by
    simp [codec, encode, node, nodeFields, decodeFields_encode hdecode]
  simp [Codec.ofString, htext, hroot, bind, Except.bind]

end RemoteRequest

end RegexGateway
