import RegexGateway.Proofs.Outcome.Lengths
import RegexGateway.Proofs.Wire.Request

namespace RegexGateway

open Json

variable {φ : Json → Json} {levels : Nat}

structure PatternError.Portable (e : PatternError) : Prop where
  regexId : IsSignedWord e.regexId
  offset : ∀ n ∈ e.offset, IsWord n

theorem PatternError.Portable.carries (hφ : Arrangement φ) {e : PatternError} (h : e.Portable) :
    PatternError.codec.Carries φ (levels + 2) e e := by
  have hoffset : Codec.nat.nullable.Carries φ (levels + 1) e.offset e.offset :=
    Codec.carries_nullable hφ (fun n hn => Codec.carries_nat hφ (h.offset n hn))
      fun _ _ h => nomatch h
  have hbad : Codec.char.nullable.Carries φ (levels + 1) e.badCharacter e.badCharacter :=
    Codec.carries_nullable hφ (fun c _ => Codec.carries_char hφ c) fun _ _ h => nomatch h
  exact Shape.carries_self hφ (by decide) ⟨Codec.carries_int hφ h.regexId.1 h.regexId.2,
    Codec.carries_string hφ e.rawMessage, hoffset, hbad,
    Codec.carries_list hφ fun s _ => Codec.carries_string hφ s, trivial⟩ rfl

def Validity.Portable (v : Validity) : Prop := ∀ e ∈ v.error?, e.Portable

theorem Validity.Portable.carries (hφ : Arrangement φ) {v : Validity} (h : v.Portable) :
    Validity.codec.Carries φ (levels + 3) v v := by
  have herror : (Field.optional "error" PatternError.codec).Carries φ (levels + 2) v.error?
      v.error? :=
    Field.carries_optional _ (fun e he => (h e he).carries hφ) fun _ _ h => nomatch h
  refine Shape.carries_checked hφ (by decide) ⟨Codec.carries_bool hφ _, herror, trivial⟩ ?_
  cases v <;> rfl

def Duration.zeroNumeral : Numeral := ⟨false, ['0'], some ['0'], none⟩

theorem Duration.scalarText_zero :
    scalarText (.float zero.toMilliseconds) = zeroNumeral.chars := by decide +kernel

theorem Duration.value_zeroNumeral : zeroNumeral.value = .ok (.float zero.toMilliseconds) := by
  have hzero : (UInt64.ofNat 0).toFloat / .ofScientific 1 false 1 = zero.toMilliseconds := by
    decide +kernel
  rw [← hzero]
  rfl

theorem Duration.plain_zeroNumeral : zeroNumeral.Plain where
  whole_ne_nil := by decide
  whole_digits := by simp [zeroNumeral, Char.isDigit]
  whole_head := by decide
  fraction_ne_nil := by decide
  fraction_digits := by simp [zeroNumeral, Char.isDigit]
  exponent_eq_none := rfl

theorem Duration.carries_zero (hφ : Arrangement φ) :
    Duration.codec.Carries φ levels .zero .zero := by
  have hread : (Json.float Duration.zero.toMilliseconds).Readable levels :=
    ⟨zeroNumeral, plain_zeroNumeral, scalarText_zero, value_zeroNumeral⟩
  exact (Codec.carries_float hφ hread).refine rfl

def Occurrence.Portable (m : Occurrence) : Prop := IsWord m.position

/-- Two occurrences that are the same but for the order of their parts, as far as these have
different keys. -/
structure Occurrence.Agrees (m m' : Occurrence) : Prop where
  whole : m.whole = m'.whole
  parts : (m.parts.map Prod.fst).Nodup → m.parts.Perm m'.parts
  position : m.position = m'.position

theorem Groups.carries (hφ : Arrangement φ) (groups : Groups) :
    ∃ groups', groups' ⊆ groups ∧ ((groups.map Prod.fst).Nodup → groups.Perm groups') ∧
      Groups.codec.Carries φ (levels + 1) groups groups' := by
  have htexts : ∀ f ∈ groups, Codec.text.nullable.Carries φ levels f.2 f.2 := fun f _ =>
    Codec.carries_nullable hφ (fun text _ => Codec.carries_text hφ text) fun _ _ h => nomatch h
  obtain ⟨groups', hsubset, hperm, hgroups⟩ := Codec.carries_fields hφ _ htexts
  exact ⟨groups', hsubset, fun h => (hperm h).symm, hgroups⟩

/-- An occurrence, and what it may be read as. -/
structure Occurrence.SentAs (m m' : Occurrence) : Prop where
  agrees : m.Agrees m'
  within : ∀ l, m.Within l → m'.Within l

theorem Occurrence.Portable.carries (hφ : Arrangement φ) {m : Occurrence} (h : m.Portable) :
    ∃ m', m.SentAs m' ∧ Occurrence.codec.Carries φ (levels + 2) m m' := by
  obtain ⟨parts, hsubset, hperm, hparts⟩ := Groups.carries hφ m.parts
  have hwithin : ∀ l, m.Within l → ({ m with parts } : Occurrence).Within l :=
    fun l hm => ⟨hm.whole, fun key text hpart => hm.parts key text (hsubset hpart)⟩
  refine ⟨{ m with parts }, ⟨⟨rfl, hperm, rfl⟩, hwithin⟩, ?_⟩
  exact Shape.carries_row hφ (m.whole, parts, m.position, ()) (by decide)
    ⟨Codec.carries_text hφ m.whole, hparts, Codec.carries_nat hφ h, trivial⟩ rfl

structure PatternOutcome.Portable (o : PatternOutcome) : Prop where
  regexId : IsSignedWord o.regexId
  validity : o.validity.Portable
  occurrences : ∀ m ∈ o.occurrences, m.Portable
  duration : o.duration = .zero

structure PatternOutcome.Agrees (o o' : PatternOutcome) : Prop where
  regexId : o.regexId = o'.regexId
  validity : o.validity = o'.validity
  occurrences : List.Forall₂ Occurrence.Agrees o.occurrences o'.occurrences

structure PatternOutcome.SentAs (o o' : PatternOutcome) : Prop where
  agrees : o.Agrees o'
  within : ∀ l, o.Within l → o'.Within l

theorem PatternOutcome.Portable.carries (hφ : Arrangement φ) {o : PatternOutcome}
    (h : o.Portable) : ∃ o', o.SentAs o' ∧ PatternOutcome.codec.Carries φ (levels + 4) o o' := by
  obtain ⟨occurrences, hsent, hlist⟩ :=
    Codec.carries_each hφ fun m hm => (h.occurrences m hm).carries hφ
  have hagree : List.Forall₂ Occurrence.Agrees o.occurrences occurrences :=
    hsent.imp fun _ _ hm => hm.agrees
  have hwithin : ∀ l, o.Within l → ({ o with occurrences } : PatternOutcome).Within l :=
    fun l => Codec.forall_mem_of_forall₂ hsent fun _ _ hm => hm.within l
  refine ⟨{ o with occurrences }, ⟨⟨rfl, rfl, hagree⟩, hwithin⟩, ?_⟩
  exact Shape.carries_row hφ (o.regexId, o.validity, o.duration, occurrences, ()) (by decide)
    ⟨Codec.carries_int hφ h.regexId.1 h.regexId.2, h.validity.carries hφ,
      h.duration ▸ Duration.carries_zero hφ, hlist, trivial⟩ rfl

structure SampleMatches.Portable (s : SampleMatches) : Prop where
  sampleId : IsWord s.sampleId
  outcomes : ∀ o ∈ s.outcomes, o.Portable
  duration : s.duration = .zero

/-- Two answers for a sample that are the same but for durations and the order of parts. -/
structure SampleMatches.Agrees (s s' : SampleMatches) : Prop where
  sampleId : s.sampleId = s'.sampleId
  sample : s.sample = s'.sample
  outcomes : List.Forall₂ PatternOutcome.Agrees s.outcomes s'.outcomes

structure SampleMatches.SentAs (s s' : SampleMatches) : Prop where
  agrees : s.Agrees s'
  within : ∀ l, s.Within l → s'.Within l

theorem SampleMatches.Portable.carries (hφ : Arrangement φ) {s : SampleMatches}
    (h : s.Portable) : ∃ s', s.SentAs s' ∧ SampleMatches.codec.Carries φ (levels + 6) s s' := by
  obtain ⟨outcomes, hsent, hlist⟩ :=
    Codec.carries_each hφ fun o ho => (h.outcomes o ho).carries hφ
  have hagree : List.Forall₂ PatternOutcome.Agrees s.outcomes outcomes :=
    hsent.imp fun _ _ ho => ho.agrees
  have hwithin : ∀ l, s.Within l → ({ s with outcomes } : SampleMatches).Within l :=
    fun l hs => ⟨hs.sample,
      Codec.forall_mem_of_forall₂ hsent (fun _ _ ho => ho.within l) hs.outcomes⟩
  refine ⟨{ s with outcomes }, ⟨⟨rfl, rfl, hagree⟩, hwithin⟩, ?_⟩
  exact Shape.carries_row hφ (s.sampleId, s.sample, outcomes, s.duration, ()) (by decide)
    ⟨Codec.carries_nat hφ h.sampleId, Codec.carries_text hφ s.sample, hlist,
      h.duration ▸ Duration.carries_zero hφ, trivial⟩ rfl

theorem ReplacedSample.carries (hφ : Arrangement φ) {r : ReplacedSample}
    (h : r.duration = .zero) : ReplacedSample.codec.Carries φ (levels + 1) r r :=
  Shape.carries_self hφ (by decide) ⟨Codec.carries_text hφ r.text,
    h ▸ Duration.carries_zero hφ, trivial⟩ rfl

end RegexGateway
