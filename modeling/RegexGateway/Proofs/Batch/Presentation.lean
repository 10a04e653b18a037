import RegexGateway.Proofs.Batch
import RegexGateway.Proofs.Table.Config

namespace RegexGateway

namespace MatchConfig

/-- The config that shows every text as it is. -/
def plain (c : MatchConfig) : MatchConfig :=
  { c with settings := { c.settings with showBlanks := false, truncate := false } }

theorem chain_plain (c : MatchConfig) : c.settings.chain = c.plain.settings.chain := rfl

theorem presentOccurrence_plain (c : MatchConfig) (m : Occurrence) :
    c.plain.presentOccurrence m = m := by
  have hwhole : c.plain.presentWhole m.whole = m.whole := rfl
  have hpart : c.plain.presentPart = id := rfl
  simp [presentOccurrence, Groups.mapTexts, hwhole, hpart]

end MatchConfig

/-- The match without its texts: where it lies, and which of its groups took part. -/
def Occurrence.withoutTexts (m : Occurrence) : Occurrence :=
  { m with whole := [], parts := m.parts.mapTexts fun _ => [] }

theorem Occurrence.withoutTexts_present (c : MatchConfig) (m : Occurrence) :
    (c.presentOccurrence m).withoutTexts = m.withoutTexts := by
  simp [withoutTexts, MatchConfig.presentOccurrence, Groups.mapTexts, Function.comp_def]

namespace PatternOutcome

def present (config : MatchConfig) (o : PatternOutcome) : PatternOutcome :=
  { o with occurrences := o.occurrences.map config.presentOccurrence }

def withoutTexts (o : PatternOutcome) : PatternOutcome :=
  { o with occurrences := o.occurrences.map Occurrence.withoutTexts }

theorem ofOccurrences_plain (c : MatchConfig) (id : Int) (found : List Occurrence) :
    (ofOccurrences c.plain id found).present c = ofOccurrences c id found := by
  simp [ofOccurrences, present, MatchConfig.presentOccurrence_plain, Function.comp_def]

theorem withoutTexts_ofOccurrences (c : MatchConfig) (id : Int) (found : List Occurrence) :
    (ofOccurrences c id found).withoutTexts = ⟨id, .valid, .zero, found.map (·.withoutTexts)⟩ := by
  simp [ofOccurrences, withoutTexts, Occurrence.withoutTexts_present, Function.comp_def]

end PatternOutcome

namespace SampleMatches

/-- A sample and its matches as a config presents them. -/
def shown (config : MatchConfig) (s : SampleMatches) : SampleMatches :=
  { s with
    sample := config.presentSample s.sample
    outcomes := s.outcomes.map (·.present config) }

def withoutTexts (s : SampleMatches) : SampleMatches :=
  { s with sample := [], outcomes := s.outcomes.map (·.withoutTexts) }

end SampleMatches

namespace Batch

variable {c c' : MatchConfig} {attempts : List Attempt}

theorem map_outcomes_error_cons {α : Type} (f : PatternOutcome → α) (e : PatternError)
    (text : List Char) :
    List.map f <$> outcomes c (.error e :: attempts) text =
      List.cons (f (.ofError e)) <$> List.map f <$> outcomes c attempts text := by
  simp only [outcomes, bind_pure_comp, Functor.map_map, List.map_cons]

theorem map_outcomes_ok_cons {α : Type} (f : PatternOutcome → α) (p : CompiledPattern)
    (text : List Char) :
    List.map f <$> outcomes c (.ok p :: attempts) text = (do
      let found ← p.execute text
      let next ← if c.settings.chain && !attempts.isEmpty then p.replaceAll text else .ok text
      List.cons (f (.ofOccurrences c p.id found)) <$> List.map f <$> outcomes c attempts next) := by
  by_cases hchain : c.settings.chain && !attempts.isEmpty
  · simp only [outcomes, hchain, if_true, bind_pure_comp, map_bind, Functor.map_map, List.map_cons]
  · simp only [outcomes, hchain, Bool.false_eq_true, if_false, bind_pure_comp, map_bind,
      Functor.map_map, List.map_cons]

/-- Two runs that rewrite the text alike, and what is made of their cells alike. -/
theorem outcomes_map {α : Type} {f g : PatternOutcome → α}
    (hchain : c.settings.chain = c'.settings.chain)
    (herror : ∀ e, f (.ofError e) = g (.ofError e))
    (hcell : ∀ id found, f (.ofOccurrences c id found) = g (.ofOccurrences c' id found))
    (text : List Char) :
    List.map f <$> outcomes c attempts text = List.map g <$> outcomes c' attempts text := by
  induction attempts generalizing text with
  | nil => rfl
  | cons attempt rest ih =>
    cases attempt with
    | error e => rw [map_outcomes_error_cons, map_outcomes_error_cons, herror, ih]
    | ok p => simp only [map_outcomes_ok_cons, hchain, hcell, ih]

theorem outcomes_eq_map {g : PatternOutcome → PatternOutcome}
    (hchain : c.settings.chain = c'.settings.chain) (herror : ∀ e, g (.ofError e) = .ofError e)
    (hcell : ∀ id found, g (.ofOccurrences c' id found) = .ofOccurrences c id found)
    (text : List Char) :
    outcomes c attempts text = List.map g <$> outcomes c' attempts text := by
  have hmap : List.map (fun o => o) <$> outcomes c attempts text =
      List.map g <$> outcomes c' attempts text :=
    outcomes_map hchain (fun e => (herror e).symm) (fun id found => (hcell id found).symm) text
  rwa [List.map_id_fun', id_map] at hmap

theorem map_matchFrom_cons {α : Type} (f : SampleMatches → α) (id : Nat) (sample : List Char)
    (rest : List (List Char)) :
    List.map f <$> matchFrom c attempts id (sample :: rest) = (do
      let entry ← f <$> matchSample c attempts id sample
      List.cons entry <$> List.map f <$> matchFrom c attempts (id + 1) rest) := by
  simp only [matchFrom, bind_pure_comp, map_bind, bind_map_left, Functor.map_map, List.map_cons]

theorem matchFrom_map {α : Type} {f g : SampleMatches → α}
    (hsample : ∀ id sample, f <$> matchSample c attempts id sample =
      g <$> matchSample c' attempts id sample) (id : Nat) (samples : List (List Char)) :
    List.map f <$> matchFrom c attempts id samples =
      List.map g <$> matchFrom c' attempts id samples := by
  induction samples generalizing id with
  | nil => rfl
  | cons sample rest ih => rw [map_matchFrom_cons, map_matchFrom_cons, hsample, ih]

theorem matchFrom_eq_map {g : SampleMatches → SampleMatches}
    (hsample : ∀ id sample, matchSample c attempts id sample =
      g <$> matchSample c' attempts id sample) (id : Nat) (samples : List (List Char)) :
    matchFrom c attempts id samples = List.map g <$> matchFrom c' attempts id samples := by
  have hmap : List.map (fun s => s) <$> matchFrom c attempts id samples =
      List.map g <$> matchFrom c' attempts id samples :=
    matchFrom_map (fun id sample => (id_map' _).trans (hsample id sample)) id samples
  rwa [List.map_id_fun', id_map] at hmap

theorem matchSample_withoutTexts (hchain : c.settings.chain = c'.settings.chain) (id : Nat)
    (sample : List Char) :
    SampleMatches.withoutTexts <$> matchSample c attempts id sample =
      SampleMatches.withoutTexts <$> matchSample c' attempts id sample := by
  have hcells : List.map PatternOutcome.withoutTexts <$> outcomes c attempts sample =
      List.map PatternOutcome.withoutTexts <$> outcomes c' attempts sample := by
    apply outcomes_map hchain fun _ => rfl
    intro id found
    rw [PatternOutcome.withoutTexts_ofOccurrences, PatternOutcome.withoutTexts_ofOccurrences]
  have hentry := congrArg (Functor.map fun cells => (⟨id, [], cells, .zero⟩ : SampleMatches)) hcells
  simpa only [matchSample, bind_pure_comp, Functor.map_map, SampleMatches.withoutTexts] using hentry

theorem matchSample_plain (id : Nat) (sample : List Char) :
    matchSample c attempts id sample =
      SampleMatches.shown c <$> matchSample c.plain attempts id sample := by
  have hcells : outcomes c attempts sample =
      List.map (PatternOutcome.present c) <$> outcomes c.plain attempts sample :=
    outcomes_eq_map c.chain_plain (fun _ => rfl) (PatternOutcome.ofOccurrences_plain c) sample
  simp only [matchSample, bind_pure_comp, Functor.map_map, hcells]
  rfl

theorem matchFrom_sample {id : Nat} {samples : List (List Char)} {found : List SampleMatches}
    (h : matchFrom c attempts id samples = .ok found) :
    found.map (·.sample) = samples.map c.presentSample := by
  induction samples generalizing id found with
  | nil =>
    obtain rfl : [] = found := by simpa [matchFrom] using h
    rfl
  | cons sample rest ih =>
    obtain ⟨entry, hentry, more, hmore, rfl⟩ := matchFrom_cons.1 h
    obtain ⟨cells, -, rfl⟩ := matchSample_eq_ok.1 hentry
    exact congrArg (c.presentSample sample :: ·) (ih hmore)

end Batch

namespace Runner

/-- Settings of presentation act when a run is over. Runs whose configs agree in the setting of
chains fail alike, or find the same matches but for the texts of them. The texts are those of the
run without cuts and names for blanks, presented; and with the matches of each sample comes the
caller's own sample, presented. -/
theorem matchSamples_presentation (r : Runner) (patterns : List PatternRecord)
    (samples : List (List Char)) (c c' : MatchConfig)
    (hchain : c.settings.chain = c'.settings.chain) :
    (r.matchSamples c patterns samples).map (List.map (·.withoutTexts)) =
      (r.matchSamples c' patterns samples).map (List.map (·.withoutTexts)) ∧
    r.matchSamples c patterns samples =
      (r.matchSamples c.plain patterns samples).map (List.map (·.shown c)) ∧
    ∀ found, r.matchSamples c patterns samples = .ok found →
      found.map (·.sample) = samples.map c.presentSample :=
  ⟨Batch.matchFrom_map (Batch.matchSample_withoutTexts hchain) 0 samples,
    Batch.matchFrom_eq_map Batch.matchSample_plain 0 samples, fun _ => Batch.matchFrom_sample⟩

def aToBlank : PatternRecord := ⟨1, ['a'], ['g'], none, ['b', ' ', 'c'], false⟩

def findBlank : PatternRecord := ⟨2, ['b', ' ', 'c'], ['g'], none, [], false⟩

theorem matchSamples_presentation_words :
    ∃ c c' : MatchConfig, c.settings.chain = c'.settings.chain ∧ ∃ entry entry',
      words.matchSamples c [aToBlank, findBlank] [['x', 'a']] = .ok [entry] ∧
      entry.sample = ['x', 'a'] ∧
      entry.outcomes[1]? = some ⟨2, .valid, .zero, [⟨['b', '[', 's'], [], 1⟩]⟩ ∧
      words.matchSamples c' [aToBlank, findBlank] [['x', 'a']] = .ok [entry'] ∧
      entry.withoutTexts = entry'.withoutTexts := by
  let c := (Capabilities.words.config.set (.showBlanks true)).set (.wholeLength 3)
  let c' := Capabilities.words.config.set (.sampleLength 1)
  obtain ⟨hsame, -, -⟩ :=
    words.matchSamples_presentation [aToBlank, findBlank] [['x', 'a']] c c' rfl
  have hrun : ∃ entry,
      words.matchSamples c [aToBlank, findBlank] [['x', 'a']] = .ok [entry] ∧
      entry.sample = ['x', 'a'] ∧
      entry.outcomes[1]? = some ⟨2, .valid, .zero, [⟨['b', '[', 's'], [], 1⟩]⟩ := ⟨_, rfl, rfl, rfl⟩
  have hrun' : ∃ entry',
      words.matchSamples c' [aToBlank, findBlank] [['x', 'a']] = .ok [entry'] := ⟨_, rfl⟩
  obtain ⟨entry, hentry, hsample, hcell⟩ := hrun
  obtain ⟨entry', hentry'⟩ := hrun'
  rw [hentry, hentry'] at hsame
  have hwithout : entry.withoutTexts = entry'.withoutTexts := by
    simpa [Except.map] using hsame
  exact ⟨c, c', rfl, entry, entry', hentry, hsample, hcell, hentry', hwithout⟩

end Runner

end RegexGateway
