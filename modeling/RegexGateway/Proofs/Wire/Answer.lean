import RegexGateway.Engine.Operations
import RegexGateway.Proofs.Batch.Presentation
import RegexGateway.Proofs.Wire.Response

namespace RegexGateway

/-- A dialect whose diagnostics count characters in words. -/
def Dialect.Portable (d : Dialect) : Prop :=
  ∀ regex flags diagnostic, d.compile regex flags = .error diagnostic →
    ∀ n ∈ diagnostic.offset, IsWord n

def Attempt.Portable : Attempt → Prop
  | .ok p => IsSignedWord p.id
  | .error e => e.Portable

theorem Runner.compile_portable {r : Runner} {record : PatternRecord} (hr : r.dialect.Portable)
    (hrecord : record.Portable) : Attempt.Portable (r.compile record) := by
  cases r.compileCase record with
  | modifiers hmodifiers =>
    rw [compile_modifiers hmodifiers]
    exact ⟨hrecord, nofun⟩
  | delimiters hmodifiers hdelimiters =>
    rw [compile_delimiters hmodifiers hdelimiters]
    exact ⟨hrecord, nofun⟩
  | regex hmodifiers hdelimiters hregex =>
    rw [compile_regex hmodifiers hdelimiters hregex]
    exact ⟨hrecord, hr _ _ _ hregex⟩
  | template hmodifiers hdelimiters hregex htemplate =>
    rw [compile_template hmodifiers hdelimiters hregex htemplate]
    exact ⟨hrecord, nofun⟩
  | usable hmodifiers hdelimiters hregex htemplate =>
    obtain ⟨p, hp, hid⟩ := compile_usable hmodifiers hdelimiters hregex htemplate
    rw [hp]
    exact (congrArg IsSignedWord hid).mpr hrecord

namespace Batch

variable {config : MatchConfig} {attempts : List Attempt}

theorem outcomes_portable {text : List Char} {cells : List PatternOutcome}
    (hattempts : ∀ a ∈ attempts, a.Portable) (h : outcomes config attempts text = .ok cells)
    (hcells : ∀ o ∈ cells, ∀ m ∈ o.occurrences, m.Portable) : ∀ o ∈ cells, o.Portable := by
  induction attempts generalizing text cells with
  | nil =>
    obtain rfl : [] = cells := by simpa [outcomes] using h
    simp
  | cons attempt rest ih =>
    obtain ⟨hattempt, hrest⟩ := List.forall_mem_cons.1 hattempts
    cases attempt with
    | error e =>
      obtain ⟨more, hmore, rfl⟩ := outcomes_error_cons.1 h
      have hvalidity : (PatternOutcome.ofError e).validity.Portable := by
        intro e' he'
        obtain rfl : e = e' := by simpa [PatternOutcome.ofError, Validity.error?] using he'
        exact hattempt
      have herror : (PatternOutcome.ofError e).Portable :=
        ⟨hattempt.regexId, hvalidity, by simp [PatternOutcome.ofError], rfl⟩
      exact List.forall_mem_cons.2 ⟨herror, ih hrest hmore (List.forall_mem_cons.1 hcells).2⟩
    | ok p =>
      obtain ⟨found, -, next, -, more, hmore, rfl⟩ := outcomes_ok_cons.1 h
      obtain ⟨hcell, hcells⟩ := List.forall_mem_cons.1 hcells
      have hvalid : Validity.valid.Portable := by simp [Validity.Portable, Validity.error?]
      exact List.forall_mem_cons.2 ⟨⟨hattempt, hvalid, hcell, rfl⟩, ih hrest hmore hcells⟩

end Batch

def SampleMatches.HasPortableOccurrences (s : SampleMatches) : Prop :=
  ∀ o ∈ s.outcomes, ∀ m ∈ o.occurrences, m.Portable

theorem Batch.matchFrom_portable {config : MatchConfig} {attempts : List Attempt} {id : Nat}
    {samples : List (List Char)} {found : List SampleMatches}
    (hattempts : ∀ a ∈ attempts, a.Portable) (hid : IsWord (id + samples.length))
    (h : matchFrom config attempts id samples = .ok found)
    (hfound : ∀ s ∈ found, s.HasPortableOccurrences) : ∀ s ∈ found, s.Portable := by
  induction samples generalizing id found with
  | nil =>
    obtain rfl : [] = found := by simpa [matchFrom] using h
    simp
  | cons sample rest ih =>
    obtain ⟨entry, hentry, more, hmore, rfl⟩ := matchFrom_cons.1 h
    obtain ⟨cells, hcells, rfl⟩ := matchSample_eq_ok.1 hentry
    obtain ⟨hfirst, hfound⟩ := List.forall_mem_cons.1 hfound
    simp only [IsWord, List.length_cons] at hid
    have hword : IsWord id := by
      simp only [IsWord]
      omega
    have hrest : IsWord (id + 1 + rest.length) := by
      simp only [IsWord]
      omega
    exact List.forall_mem_cons.2 ⟨⟨hword, outcomes_portable hattempts hcells hfirst, rfl⟩,
      ih hrest hmore hfound⟩

namespace MatchConfig

theorem presentOccurrence_hideBlanks (c : MatchConfig) (m : Occurrence) :
    c.presentOccurrence (c.hideBlanks.presentOccurrence m) = c.presentOccurrence m := by
  have hwhole : ∀ text, c.presentWhole (c.hideBlanks.presentWhole text) = c.presentWhole text :=
    c.present_hideBlanks c.settings.wholeLength
  have hpart : ∀ text, c.presentPart (c.hideBlanks.presentPart text) = c.presentPart text :=
    c.present_hideBlanks c.settings.partLength
  simp [presentOccurrence, Groups.mapTexts, hwhole, hpart, Function.comp_def]

/-- What the first cut takes away, the second one would have. A config that was sent with blanks as
they are cuts its texts as the caller's does, so a match that comes back cut loses nothing. -/
theorem present_clipped :
    (∀ length text, Text.truncate length (Text.visible (Text.truncate length text)) =
      Text.truncate length (Text.visible text)) ∧
    (∀ c : MatchConfig, c.settings.truncate → ∀ text,
      c.presentWhole (Text.truncate c.settings.wholeLength text) = c.presentWhole text ∧
      c.presentPart (Text.truncate c.settings.partLength text) = c.presentPart text) ∧
    ∀ base c, Derived base c → ∀ m,
      c.presentOccurrence ((base.apply { c.settings with showBlanks := false }).presentOccurrence m) =
        c.presentOccurrence m := by
  refine ⟨Text.truncate_visible_truncate, ?_, ?_⟩
  · intro c htruncate text
    have hclip (length : Nat) (text : List Char) :
        c.hideBlanks.present length text = Text.truncate length text := by
      simp [hideBlanks, present, clip, htruncate]
    constructor
    · rw [← hclip]
      exact c.present_hideBlanks c.settings.wholeLength text
    · rw [← hclip]
      exact c.present_hideBlanks c.settings.partLength text
  · intro base c hderived m
    have hsent : base.apply { c.settings with showBlanks := false } = c.hideBlanks :=
      hderived.hideBlanks.apply_settings
    rw [hsent]
    exact presentOccurrence_hideBlanks c m

def narrow : MatchConfig := ⟨⟨true, 2, 4, 9, true, true⟩, ⟨9, 9, 9, false⟩⟩

theorem present_clipped_narrow :
    narrow.presentWhole "a\tbc".toList = "a[ta".toList ∧
    narrow.presentWhole "a\tbcd".toList = "a[ta".toList ∧
    (narrow.apply { narrow.settings with showBlanks := false }).presentOccurrence
      ⟨"a\tbcd".toList, [("1", some "\tbc".toList)], 5⟩ =
        ⟨"a\tbc".toList, [("1", some "\tb".toList)], 5⟩ ∧
    narrow.presentOccurrence ⟨"a\tbc".toList, [("1", some "\tb".toList)], 5⟩ =
      ⟨"a[ta".toList, [("1", some "[t".toList)], 5⟩ := by
  have hwhole : narrow.presentWhole "a\tbcd".toList = "a[ta".toList := by decide
  have hsent : (narrow.apply { narrow.settings with showBlanks := false }).presentOccurrence
      ⟨"a\tbcd".toList, [("1", some "\tbc".toList)], 5⟩ =
        ⟨"a\tbc".toList, [("1", some "\tb".toList)], 5⟩ := by
    decide
  have hderived : Derived narrow narrow := Bounded.derived
    ⟨⟨by decide, by decide⟩, ⟨by decide, by decide⟩, ⟨by decide, by decide⟩⟩
  obtain ⟨-, hcut, hback⟩ := present_clipped
  refine ⟨?_, hwhole, hsent, ?_⟩
  · exact (hcut narrow rfl "a\tbcd".toList).1.trans hwhole
  · rw [← hsent, hback narrow narrow hderived]
    decide

theorem chain_hideBlanks (c : MatchConfig) : c.settings.chain = c.hideBlanks.settings.chain := rfl

theorem hideBlanks_eq {c : MatchConfig} (h : c.settings.showBlanks = false) : c.hideBlanks = c := by
  obtain ⟨⟨_, _, _, _, blanks, _⟩, _⟩ := c
  obtain rfl : blanks = false := h
  rfl

end MatchConfig

theorem PatternOutcome.ofOccurrences_hideBlanks (c : MatchConfig) (id : Int)
    (found : List Occurrence) :
    (ofOccurrences c.hideBlanks id found).present c = ofOccurrences c id found := by
  simp [ofOccurrences, present, MatchConfig.presentOccurrence_hideBlanks, Function.comp_def]

namespace Batch

theorem matchSample_hideBlanks (c : MatchConfig) (attempts : List Attempt) (id : Nat)
    (sample : List Char) :
    matchSample c attempts id sample =
      SampleMatches.present c <$> matchSample c.hideBlanks attempts id sample := by
  have hcells : outcomes c attempts sample =
      List.map (PatternOutcome.present c) <$> outcomes c.hideBlanks attempts sample :=
    outcomes_eq_map c.chain_hideBlanks (fun _ => rfl) (PatternOutcome.ofOccurrences_hideBlanks c)
      sample
  simp only [matchSample, bind_pure_comp, Functor.map_map, hcells]
  rfl

end Batch

namespace Runner

/-- The matches without names for blanks say all that is needed to put the names in. -/
theorem matchSamples_hideBlanks (r : Runner) (c : MatchConfig) (patterns : List PatternRecord)
    (samples : List (List Char)) :
    r.matchSamples c patterns samples =
      (r.matchSamples c.hideBlanks patterns samples).map fun found =>
        if c.settings.showBlanks then found.map (·.present c) else found := by
  cases hblanks : c.settings.showBlanks with
  | false =>
    rw [MatchConfig.hideBlanks_eq hblanks]
    cases r.matchSamples c patterns samples <;> rfl
  | true => exact Batch.matchFrom_eq_map (Batch.matchSample_hideBlanks c _) 0 samples

theorem matchSamples_portable {r : Runner} {config : MatchConfig} {patterns : List PatternRecord}
    {samples : List (List Char)} {found : List SampleMatches} (hr : r.dialect.Portable)
    (hpatterns : ∀ record ∈ patterns, record.Portable) (hsamples : IsWord samples.length)
    (h : r.matchSamples config patterns samples = .ok found)
    (hfound : ∀ s ∈ found, s.HasPortableOccurrences) : ∀ s ∈ found, s.Portable := by
  have hattempts : ∀ a ∈ patterns.map r.compile, Attempt.Portable a := by
    intro a ha
    obtain ⟨record, hrecord, rfl⟩ := List.mem_map.1 ha
    exact compile_portable hr (hpatterns record hrecord)
  exact Batch.matchFrom_portable hattempts (by rwa [Nat.zero_add]) h hfound

theorem replace_duration {r : Runner} {patterns : List PatternRecord} {samples : List (List Char)}
    {replaced : List ReplacedSample} (h : r.replace patterns samples = .ok replaced) :
    ∀ s ∈ replaced, s.duration = .zero := by
  unfold replace at h
  induction samples generalizing replaced with
  | nil =>
    obtain rfl : [] = replaced := by simpa [Batch.replaceEach] using h
    simp
  | cons sample rest ih =>
    simp only [Batch.replaceEach, bind_eq_ok, bind_pure_comp, map_eq_ok] at h
    obtain ⟨text, -, more, hmore, rfl⟩ := h
    exact List.forall_mem_cons.2 ⟨rfl, ih hmore⟩

end Runner

namespace SampleMatches

theorem present_hasPortableOccurrences {config : MatchConfig} {s : SampleMatches} :
    (s.present config).HasPortableOccurrences ↔ s.HasPortableOccurrences := by
  have hposition : ∀ m : Occurrence, (config.presentOccurrence m).Portable ↔ m.Portable :=
    fun _ => Iff.rfl
  simp [HasPortableOccurrences, present, hposition]

end SampleMatches

theorem Occurrence.Agrees.present {m m' : Occurrence} (h : m.Agrees m') (config : MatchConfig) :
    (config.presentOccurrence m).Agrees (config.presentOccurrence m') where
  whole := congrArg config.presentWhole h.whole
  parts := by
    intro hkeys
    have hsame : (m.parts.map Prod.fst).Nodup := by
      simpa [MatchConfig.presentOccurrence, Groups.mapTexts, Function.comp_def] using hkeys
    exact (h.parts hsame).map _
  position := h.position

theorem PatternOutcome.Agrees.present {o o' : PatternOutcome} (h : o.Agrees o')
    (config : MatchConfig) : (o.present config).Agrees (o'.present config) where
  regexId := h.regexId
  validity := h.validity
  occurrences := List.rel_map (fun _ _ hm => hm.present config) h.occurrences

theorem SampleMatches.Agrees.present {s s' : SampleMatches} (h : s.Agrees s')
    (config : MatchConfig) : (s.present config).Agrees (s'.present config) where
  sampleId := h.sampleId
  sample := h.sample
  outcomes := List.rel_map (fun _ _ ho => ho.present config) h.outcomes

end RegexGateway
