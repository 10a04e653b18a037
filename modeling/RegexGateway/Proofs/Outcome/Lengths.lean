import RegexGateway.Outcome.Basic
import RegexGateway.Proofs.Table.Config

namespace RegexGateway

/-- The greatest lengths of the three kinds of texts that are shown with matches. -/
structure Lengths where
  part : Nat
  whole : Nat
  sample : Nat
  deriving DecidableEq, Repr

structure Lengths.Le (l l' : Lengths) : Prop where
  part : l.part ≤ l'.part
  whole : l.whole ≤ l'.whole
  sample : l.sample ≤ l'.sample

def MatchSettings.lengths (s : MatchSettings) : Lengths :=
  ⟨s.partLength, s.wholeLength, s.sampleLength⟩

def MatchLimits.lengths (l : MatchLimits) : Lengths :=
  ⟨l.partLength, l.wholeLength, l.sampleLength⟩

theorem MatchConfig.Bounded.lengths_le {c : MatchConfig} (h : c.Bounded) :
    c.settings.lengths.Le c.limits.lengths :=
  ⟨h.partLength.2, h.wholeLength.2, h.sampleLength.2⟩

/-- An occurrence whose texts keep to lengths. -/
structure Occurrence.Within (m : Occurrence) (l : Lengths) : Prop where
  whole : m.whole.length ≤ l.whole
  parts : ∀ key text, (key, some text) ∈ m.parts → text.length ≤ l.part

def PatternOutcome.Within (o : PatternOutcome) (l : Lengths) : Prop :=
  ∀ m ∈ o.occurrences, m.Within l

structure SampleMatches.Within (s : SampleMatches) (l : Lengths) : Prop where
  sample : s.sample.length ≤ l.sample
  outcomes : ∀ o ∈ s.outcomes, o.Within l

theorem Occurrence.Within.mono {m : Occurrence} {l l' : Lengths} (h : m.Within l) (hl : l.Le l') :
    m.Within l' where
  whole := Nat.le_trans h.whole hl.whole
  parts key text hpart := Nat.le_trans (h.parts key text hpart) hl.part

theorem SampleMatches.Within.mono {s : SampleMatches} {l l' : Lengths} (h : s.Within l)
    (hl : l.Le l') : s.Within l' where
  sample := Nat.le_trans h.sample hl.sample
  outcomes o ho m hm := (h.outcomes o ho m hm).mono hl

end RegexGateway
