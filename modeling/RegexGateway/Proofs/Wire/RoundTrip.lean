import RegexGateway.Proofs.Engine.Loopback
import RegexGateway.Table.Registry

namespace RegexGateway

open Json

/-- Every such value is read back from the text that it is written as. -/
def Json.Codec.ReadsBack {α : Type} (c : Codec α) (P : α → Prop) : Prop :=
  ∀ a, P a → c.ofString (c.toString a) = .ok a

theorem Json.Codec.ReadsBack.of_carries {α : Type} {c : Codec α} {P : α → Prop} (levels : Nat)
    (hlevels : levels < depthLimit) (h : ∀ a, P a → c.Carries (fun j => j) levels a a) :
    c.ReadsBack P := fun a ha => (h a ha).ofString hlevels

variable {φ : Json → Json} {levels : Nat}

structure MatchConfig.Portable (c : MatchConfig) : Prop where
  settings : c.settings.Portable
  limits : c.limits.Portable

theorem MatchConfig.Portable.carries (hφ : Arrangement φ) {c : MatchConfig} (h : c.Portable) :
    MatchConfig.codec.Carries φ (levels + 1) c c :=
  Shape.carries_self hφ (by decide) ⟨Codec.carries_bool hφ c.settings.chain,
    Codec.carries_nat hφ h.settings.partLength, Codec.carries_nat hφ h.settings.wholeLength,
    Codec.carries_nat hφ h.settings.sampleLength, Codec.carries_bool hφ c.settings.showBlanks,
    Codec.carries_bool hφ c.settings.truncate, Codec.carries_nat hφ h.limits.partLength,
    Codec.carries_nat hφ h.limits.wholeLength, Codec.carries_nat hφ h.limits.sampleLength,
    Codec.carries_bool hφ c.limits.truncateOptional, trivial⟩ rfl

theorem Access.carries (hφ : Arrangement φ) (access : Access) :
    Access.codec.Carries φ levels access access :=
  Codec.carries_named hφ (by cases access <;> decide)

theorem ModifiersLabel.carries (hφ : Arrangement φ) (label : ModifiersLabel) :
    ModifiersLabel.codec.Carries φ levels label label :=
  Codec.carries_named hφ (by cases label <;> decide)

theorem DialectKind.carries (hφ : Arrangement φ) (dialect : DialectKind) :
    DialectKind.codec.Carries φ levels dialect dialect :=
  Codec.carries_named hφ (by cases dialect <;> decide)

def EngineSpec.Portable (s : EngineSpec) : Prop := s.config.Portable

theorem EngineSpec.Portable.carries (hφ : Arrangement φ) {s : EngineSpec} (h : s.Portable) :
    EngineSpec.codec.Carries φ (levels + 3) s s := by
  have hglobal : Codec.char.nullable.Carries φ (levels + 2) s.globalModifier s.globalModifier :=
    Codec.carries_nullable hφ (fun c _ => Codec.carries_char hφ c) fun _ _ h => nomatch h
  exact Shape.carries_self hφ (by decide) ⟨Codec.carries_string hφ s.id,
    Codec.carries_string hφ s.name, Codec.carries_string hφ s.docsUrl,
    Codec.carries_string hφ s.apiUrl,
    Codec.carries_list hφ fun c _ => Codec.carries_char hφ c,
    Codec.carries_list hφ fun pair _ => pair.carries hφ,
    Codec.carries_list hφ fun c _ => Codec.carries_char hφ c,
    s.label.carries hφ, hglobal, s.defaultDelimiters.carries hφ,
    Codec.carries_text hφ s.defaultModifiers, Codec.carries_bool hφ s.delimiterRequired,
    s.access.carries hφ, s.dialect.carries hφ, MatchConfig.Portable.carries hφ h, trivial⟩ rfl

structure TestOutcome.Portable (o : TestOutcome) : Prop where
  regexId : IsSignedWord o.regexId
  error : ∀ e ∈ o.error, e.Portable

theorem TestOutcome.Portable.carries (hφ : Arrangement φ) {o : TestOutcome} (h : o.Portable) :
    TestOutcome.codec.Carries φ (levels + 3) o o := by
  have herror : (Field.optional "error" PatternError.codec).Carries φ (levels + 2) o.error
      o.error :=
    Field.carries_optional _ (fun e he => (h.error e he).carries hφ) fun _ _ h => nomatch h
  exact Shape.carries_self hφ (by decide) ⟨Codec.carries_int hφ h.regexId.1 h.regexId.2,
    Codec.carries_bool hφ o.valid, herror, trivial⟩ rfl

/-- Groups that are written plainly keep their order and every key that comes again. -/
theorem Groups.carries_plain (groups : Groups) :
    Groups.codec.Carries (fun j => j) (levels + 1) groups groups :=
  Codec.carries_fields_plain _ fun _ _ =>
    Codec.carries_nullable .id (fun text _ => Codec.carries_text .id text) fun _ _ h => nomatch h

theorem Occurrence.Portable.carries_plain {m : Occurrence} (h : m.Portable) :
    Occurrence.codec.Carries (fun j => j) (levels + 2) m m :=
  Shape.carries_self .id (by decide) ⟨Codec.carries_text .id m.whole,
    Groups.carries_plain m.parts, Codec.carries_nat .id h, trivial⟩ rfl

/-- What is read from the text of any value of the wire or of a table is that value. A registry is
the same, or fails for the same reason, whether it is made of tables or of their text. -/
theorem formats_read_back :
    RemoteRequest.codec.ReadsBack RemoteRequest.Portable ∧
    PatternRecord.codec.ReadsBack PatternRecord.Portable ∧
    DelimiterPair.codec.ReadsBack (fun _ => True) ∧
    MatchSettings.codec.ReadsBack MatchSettings.Portable ∧
    MatchConfig.codec.ReadsBack MatchConfig.Portable ∧
    Validity.codec.ReadsBack Validity.Portable ∧
    PatternError.codec.ReadsBack PatternError.Portable ∧
    TestOutcome.codec.ReadsBack TestOutcome.Portable ∧
    Groups.codec.ReadsBack (fun _ => True) ∧
    Occurrence.codec.ReadsBack Occurrence.Portable ∧
    EngineSpec.codec.ReadsBack EngineSpec.Portable ∧
    ∀ specs : List EngineSpec, (∀ spec ∈ specs, spec.Portable) →
      Registry.ofJson (EngineSpec.codec.list.toString specs) = Registry.ofSpecs specs := by
  refine ⟨fun _ h => h.ofString_toString, .of_carries 2 (by decide) fun _ h => h.carries .id,
    .of_carries 1 (by decide) fun pair _ => pair.carries .id,
    .of_carries 1 (by decide) fun _ h => h.carries .id,
    .of_carries 1 (by decide) fun _ h => h.carries .id,
    .of_carries 3 (by decide) fun _ h => h.carries .id,
    .of_carries 2 (by decide) fun _ h => h.carries .id,
    .of_carries 3 (by decide) fun _ h => h.carries .id,
    .of_carries 1 (by decide) fun groups _ => Groups.carries_plain groups,
    .of_carries 2 (by decide) fun _ h => h.carries_plain,
    .of_carries 3 (by decide) fun _ h => h.carries .id, ?_⟩
  intro specs hspecs
  have hlist : EngineSpec.codec.list.Carries (fun j => j) 4 specs specs :=
    Codec.carries_list .id fun spec hspec => (hspecs spec hspec).carries .id
  have hread : EngineSpec.codec.list.ofString (EngineSpec.codec.list.toString specs) = .ok specs :=
    hlist.ofString (by decide)
  simp only [Registry.ofJson, hread, mapError_ok, bind, Except.bind]

theorem formats_read_back_twice :
    Groups.codec.ofString (Groups.codec.toString [("1", some ['a']), ("1", none)]) =
      .ok [("1", some ['a']), ("1", none)] ∧
    IsSignedWord (-7) ∧
    Validity.codec.ofString (Validity.codec.toString (.invalid ⟨⟨"é", some 3, none, []⟩, -7⟩)) =
      .ok (.invalid ⟨⟨"é", some 3, none, []⟩, -7⟩) ∧
    EngineSpec.words.Portable ∧
    Registry.ofJson (EngineSpec.codec.list.toString [.words, .words]) =
      .error (.table (.duplicateId "words")) := by
  obtain ⟨-, -, -, -, -, hvalidity, -, -, hgroups, -, -, hregistry⟩ := formats_read_back
  have hid : IsSignedWord (-7) := by decide
  have herror : PatternError.Portable ⟨⟨"é", some 3, none, []⟩, -7⟩ := ⟨hid, by simp; decide⟩
  have hspec : EngineSpec.words.Portable := ⟨⟨by decide, by decide, by decide⟩, by decide, by decide,
    by decide⟩
  refine ⟨hgroups _ trivial, hid, hvalidity _ ?_, hspec, (hregistry [.words, .words] ?_).trans rfl⟩
  · intro e he
    obtain rfl := Option.some.inj he
    exact herror
  · simp [hspec]

end RegexGateway
