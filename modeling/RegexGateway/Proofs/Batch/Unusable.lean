import Mathlib.Data.List.Forall2
import RegexGateway.Proofs.Batch

namespace RegexGateway

/-- The items that are not marked. -/
def dropMarked {α : Type} : List Bool → List α → List α
  | true :: marks, _ :: items => dropMarked marks items
  | false :: marks, item :: items => item :: dropMarked marks items
  | _, _ => []

theorem dropMarked_map {α β : Type} (f : α → β) (marks : List Bool) (items : List α) :
    dropMarked marks (items.map f) = (dropMarked marks items).map f := by
  induction items generalizing marks with
  | nil => cases marks <;> simp [dropMarked]
  | cons item rest ih =>
    match marks with
    | [] => rfl
    | true :: marks => exact ih marks
    | false :: marks => exact congrArg (f item :: ·) (ih marks)

namespace Batch

/-- Attempts some of which are marked, none of these a pattern. -/
inductive Marked : List Bool → List Attempt → Prop where
  | nil : Marked [] []
  | put {marks : List Bool} {rest : List Attempt} (e : PatternError) (h : Marked marks rest) :
      Marked (true :: marks) (.error e :: rest)
  | keep {marks : List Bool} {rest : List Attempt} (a : Attempt) (h : Marked marks rest) :
      Marked (false :: marks) (a :: rest)

/-- The last attempt gave a pattern. -/
def EndsUsable (attempts : List Attempt) : Prop := ∃ p, attempts.getLast? = some (.ok p)

variable {config : MatchConfig} {marks : List Bool} {attempts : List Attempt} {text : List Char}

theorem endsUsable_cons {a : Attempt} {rest : List Attempt} (h : rest ≠ []) :
    EndsUsable (a :: rest) ↔ EndsUsable rest := by
  obtain ⟨b, rest, rfl⟩ := List.exists_cons_of_ne_nil h
  simp only [EndsUsable, List.getLast?_cons_cons]

theorem endsUsable_error_cons {e : PatternError} {rest : List Attempt} :
    EndsUsable (.error e :: rest) ↔ EndsUsable rest := by
  cases rest with
  | nil => simp [EndsUsable]
  | cons b rest => exact endsUsable_cons (List.cons_ne_nil b rest)

theorem replaceText_ok_cons {p : CompiledPattern} {rest : List Attempt} {result : List Char} :
    replaceText (.ok p :: rest) text = .ok result ↔
      ∃ next, p.replaceAll text = .ok next ∧ replaceText rest next = .ok result := by
  simp only [replaceText, bind_eq_ok]

theorem replaceText_dropMarked (h : Marked marks attempts) (text : List Char) :
    replaceText attempts text = replaceText (dropMarked marks attempts) text := by
  induction h generalizing text with
  | nil => rfl
  | put e h ih => exact ih text
  | keep a h ih =>
    cases a with
    | error e => exact ih text
    | ok p => exact bind_congr fun next => ih next

theorem rewrite_eq {p : CompiledPattern} {rest : List Attempt} (h : rest ≠ []) :
    (if config.settings.chain && !rest.isEmpty then p.replaceAll text else .ok text) =
      if config.settings.chain then p.replaceAll text else .ok text := by
  simp [List.isEmpty_eq_false_iff.2 h]

theorem outcomes_dropMarked (h : Marked marks attempts) {cells : List PatternOutcome}
    (hcells : outcomes config attempts text = .ok cells) :
    outcomes config (dropMarked marks attempts) text = .ok (dropMarked marks cells) := by
  induction h generalizing text cells with
  | nil =>
    obtain rfl : [] = cells := by simpa [outcomes] using hcells
    rfl
  | put e h ih =>
    obtain ⟨more, hmore, rfl⟩ := outcomes_error_cons.1 hcells
    exact ih hmore
  | @keep marks rest a h ih =>
    cases a with
    | error e =>
      obtain ⟨more, hmore, rfl⟩ := outcomes_error_cons.1 hcells
      exact outcomes_error_cons.2 ⟨_, ih hmore, rfl⟩
    | ok p =>
      obtain ⟨found, hfound, next, hnext, more, hmore, rfl⟩ := outcomes_ok_cons.1 hcells
      have hkept := ih hmore
      by_cases hnone : dropMarked marks rest = []
      · -- No pattern is left behind this one, so the text is not rewritten.
        rw [hnone] at hkept
        have hcell : outcomes config [.ok p] text = .ok [.ofOccurrences config p.id found] :=
          outcomes_ok_cons.2 ⟨found, hfound, text, by simp, [], rfl, rfl⟩
        rw [dropMarked, dropMarked, hnone, hcell, ← Except.ok.inj hkept]
      · have hrest : rest ≠ [] := by
          rintro rfl
          exact hnone (by cases h; rfl)
        rw [rewrite_eq hrest] at hnext
        exact outcomes_ok_cons.2
          ⟨found, hfound, next, (rewrite_eq hnone).trans hnext, _, hkept, rfl⟩

theorem outcomes_error_cell {cells : List PatternOutcome} {i : Nat} {e : PatternError}
    (h : outcomes config attempts text = .ok cells) (hi : attempts[i]? = some (.error e)) :
    cells[i]? = some (.ofError e) := by
  obtain ⟨cell, seen, hcell, -, halone⟩ := outcomes_cell h hi
  obtain rfl : .ofError e = cell := by simpa [outcomes, map_eq_ok] using halone
  exact hcell

theorem replaceText_of_outcomes (hchain : config.settings.chain) (hlast : ¬ EndsUsable attempts)
    {cells : List PatternOutcome} (h : outcomes config attempts text = .ok cells) :
    ∃ result, replaceText attempts text = .ok result := by
  induction attempts generalizing text cells with
  | nil => exact ⟨text, rfl⟩
  | cons a rest ih =>
    cases a with
    | error e =>
      obtain ⟨more, hmore, -⟩ := outcomes_error_cons.1 h
      exact ih (endsUsable_error_cons.not.1 hlast) hmore
    | ok p =>
      have hrest : rest ≠ [] := by
        rintro rfl
        exact hlast ⟨p, rfl⟩
      obtain ⟨-, -, next, hnext, more, hmore, -⟩ := outcomes_ok_cons.1 h
      rw [rewrite_eq hrest, if_pos hchain] at hnext
      obtain ⟨result, hresult⟩ := ih ((endsUsable_cons hrest).not.1 hlast) hmore
      exact ⟨result, replaceText_ok_cons.2 ⟨next, hnext, hresult⟩⟩

theorem Marked.not_endsUsable (h : Marked marks attempts) (hnone : dropMarked marks attempts = []) :
    ¬ EndsUsable attempts := by
  induction h with
  | nil => simp [EndsUsable]
  | put e h ih => exact endsUsable_error_cons.not.2 (ih hnone)
  | keep a h ih => simp [dropMarked] at hnone

/-- What a pattern that is not the last leaves, if it has a cell without the marked attempts behind
it and, where these make it rewrite the text for the first time, it can be replaced. -/
theorem exists_next {p : CompiledPattern} {rest : List Attempt} (h : Marked marks rest)
    {kept : List PatternOutcome}
    (hkept : outcomes config (.ok p :: dropMarked marks rest) text = .ok kept)
    (hreplace : config.settings.chain → ¬ EndsUsable rest →
      ∃ result, replaceText (.ok p :: dropMarked marks rest) text = .ok result) :
    ∃ next, (if config.settings.chain then p.replaceAll text else .ok text) = .ok next ∧
      (∃ cells, outcomes config (dropMarked marks rest) next = .ok cells) ∧
      (config.settings.chain → ¬ EndsUsable rest →
        ∃ result, replaceText (dropMarked marks rest) next = .ok result) := by
  obtain ⟨-, -, next, hnext, more, hmore, -⟩ := outcomes_ok_cons.1 hkept
  by_cases hnone : dropMarked marks rest = []
  · have hlast := h.not_endsUsable hnone
    rw [hnone] at hreplace ⊢
    cases hchain : config.settings.chain with
    | false => exact ⟨text, rfl, ⟨[], rfl⟩, nofun⟩
    | true =>
      obtain ⟨result, hresult⟩ := hreplace hchain hlast
      obtain ⟨next, hnext, hrewritten⟩ := replaceText_ok_cons.1 hresult
      exact ⟨next, hnext, ⟨[], rfl⟩, fun _ _ => ⟨result, hrewritten⟩⟩
  · rw [rewrite_eq hnone] at hnext
    refine ⟨next, hnext, ⟨more, hmore⟩, ?_⟩
    intro hchain hlast
    rw [if_pos hchain] at hnext
    obtain ⟨result, hresult⟩ := hreplace hchain hlast
    obtain ⟨next', hnext', hrewritten⟩ := replaceText_ok_cons.1 hresult
    obtain rfl := Except.ok.inj (hnext.symm.trans hnext')
    exact ⟨result, hrewritten⟩

/-- A run succeeds with the marked attempts if it does without them and, where a chain goes on
behind its last pattern, all the replacements succeed too. -/
theorem outcomes_of_dropMarked (h : Marked marks attempts)
    (hkept : ∃ cells, outcomes config (dropMarked marks attempts) text = .ok cells)
    (hreplace : config.settings.chain → ¬ EndsUsable attempts →
      ∃ result, replaceText (dropMarked marks attempts) text = .ok result) :
    ∃ cells, outcomes config attempts text = .ok cells := by
  induction h generalizing text with
  | nil => exact ⟨[], rfl⟩
  | put e h ih =>
    rw [endsUsable_error_cons] at hreplace
    obtain ⟨cells, hcells⟩ := ih hkept hreplace
    exact ⟨_, outcomes_error_cons.2 ⟨cells, hcells, rfl⟩⟩
  | @keep marks rest a h ih =>
    obtain ⟨kept, hkept⟩ := hkept
    cases a with
    | error e =>
      rw [endsUsable_error_cons] at hreplace
      obtain ⟨more, hmore, -⟩ := outcomes_error_cons.1 hkept
      obtain ⟨cells, hcells⟩ := ih ⟨more, hmore⟩ hreplace
      exact ⟨_, outcomes_error_cons.2 ⟨cells, hcells, rfl⟩⟩
    | ok p =>
      obtain ⟨found, hfound, -⟩ := outcomes_ok_cons.1 hkept
      by_cases hrest : rest = []
      · subst hrest
        exact ⟨_, outcomes_ok_cons.2 ⟨found, hfound, text, by simp, [], rfl, rfl⟩⟩
      · rw [endsUsable_cons hrest] at hreplace
        obtain ⟨next, hnext, hmore, hresult⟩ := exists_next h hkept hreplace
        obtain ⟨cells, hcells⟩ := ih hmore hresult
        exact ⟨_, outcomes_ok_cons.2
          ⟨found, hfound, next, (rewrite_eq hrest).trans hnext, cells, hcells, rfl⟩⟩

theorem outcomes_isOk_iff (h : Marked marks attempts) :
    (∃ cells, outcomes config attempts text = .ok cells) ↔
      (∃ cells, outcomes config (dropMarked marks attempts) text = .ok cells) ∧
      (config.settings.chain → ¬ EndsUsable attempts →
        ∃ result, replaceText (dropMarked marks attempts) text = .ok result) := by
  constructor
  · rintro ⟨cells, hcells⟩
    refine ⟨⟨_, outcomes_dropMarked h hcells⟩, ?_⟩
    intro hchain hlast
    rw [← replaceText_dropMarked h]
    exact replaceText_of_outcomes hchain hlast hcells
  · rintro ⟨hkept, hreplace⟩
    exact outcomes_of_dropMarked h hkept hreplace

theorem matchFrom_isOk_iff {id : Nat} {samples : List (List Char)} :
    (∃ found, matchFrom config attempts id samples = .ok found) ↔
      ∀ sample ∈ samples, ∃ cells, outcomes config attempts sample = .ok cells := by
  induction samples generalizing id with
  | nil => simp [matchFrom]
  | cons sample rest ih =>
    rw [List.forall_mem_cons, ← @ih (id + 1)]
    constructor
    · rintro ⟨found, hfound⟩
      obtain ⟨entry, hentry, more, hmore, -⟩ := matchFrom_cons.1 hfound
      obtain ⟨cells, hcells, -⟩ := matchSample_eq_ok.1 hentry
      exact ⟨⟨cells, hcells⟩, more, hmore⟩
    · rintro ⟨⟨cells, hcells⟩, more, hmore⟩
      exact ⟨_, matchFrom_cons.2 ⟨_, matchSample_eq_ok.2 ⟨cells, hcells, rfl⟩, more, hmore, rfl⟩⟩

theorem replaceEach_isOk_iff {samples : List (List Char)} :
    (∃ replaced, replaceEach attempts samples = .ok replaced) ↔
      ∀ sample ∈ samples, ∃ result, replaceText attempts sample = .ok result := by
  induction samples with
  | nil => simp [replaceEach]
  | cons sample rest ih =>
    rw [List.forall_mem_cons, ← ih]
    simp only [replaceEach, bind_eq_ok, bind_pure_comp, map_eq_ok]
    constructor
    · rintro ⟨-, result, hresult, more, hmore, -⟩
      exact ⟨⟨result, hresult⟩, more, hmore⟩
    · rintro ⟨⟨result, hresult⟩, more, hmore⟩
      exact ⟨_, result, hresult, more, hmore, rfl⟩

theorem replaceEach_dropMarked (h : Marked marks attempts) (samples : List (List Char)) :
    replaceEach attempts samples = replaceEach (dropMarked marks attempts) samples := by
  induction samples with
  | nil => rfl
  | cons sample rest ih => simp only [replaceEach, replaceText_dropMarked h sample, ih]

/-- An entry of a run with the marked attempts, and the one of the same sample without them. -/
structure Keeps (marks : List Bool) (attempts : List Attempt) (entry kept : SampleMatches) :
    Prop where
  sampleId : kept.sampleId = entry.sampleId
  sample : kept.sample = entry.sample
  length : entry.outcomes.length = attempts.length
  outcomes : kept.outcomes = dropMarked marks entry.outcomes
  errors : ∀ (i : Nat) (e : PatternError), attempts[i]? = some (.error e) →
    entry.outcomes[i]? = some (.ofError e)

theorem matchFrom_dropMarked (h : Marked marks attempts) {id : Nat} {samples : List (List Char)}
    {found : List SampleMatches} (hfound : matchFrom config attempts id samples = .ok found) :
    ∃ kept, matchFrom config (dropMarked marks attempts) id samples = .ok kept ∧
      List.Forall₂ (Keeps marks attempts) found kept := by
  induction samples generalizing id found with
  | nil =>
    obtain rfl : [] = found := by simpa [matchFrom] using hfound
    exact ⟨[], rfl, .nil⟩
  | cons sample rest ih =>
    obtain ⟨entry, hentry, more, hmore, rfl⟩ := matchFrom_cons.1 hfound
    obtain ⟨cells, hcells, rfl⟩ := matchSample_eq_ok.1 hentry
    obtain ⟨kept, hkept, hkeeps⟩ := ih hmore
    have hentry' : matchSample config (dropMarked marks attempts) id sample =
        .ok ⟨id, config.presentSample sample, dropMarked marks cells, .zero⟩ :=
      matchSample_eq_ok.2 ⟨_, outcomes_dropMarked h hcells, rfl⟩
    refine ⟨_, matchFrom_cons.2 ⟨_, hentry', kept, hkept, rfl⟩, .cons ?_ hkeeps⟩
    exact ⟨rfl, rfl, outcomes_length hcells, rfl, fun i e hi => outcomes_error_cell hcells hi⟩

end Batch

namespace Runner

variable {r : Runner} {marks : List Bool} {patterns : List PatternRecord}

/-- Each record has a mark or none, and no marked one can be compiled. -/
structure MarksUnusable (r : Runner) (marks : List Bool) (patterns : List PatternRecord) :
    Prop where
  length : marks.length = patterns.length
  unusable : ∀ (i : Nat) (record : PatternRecord), patterns[i]? = some record →
    marks[i]? = some true → ∃ e, r.compile record = .error e

/-- The last record can be compiled. -/
def EndsUsable (r : Runner) (patterns : List PatternRecord) : Prop :=
  ∃ record p, patterns.getLast? = some record ∧ r.compile record = .ok p

theorem endsUsable_iff : Batch.EndsUsable (patterns.map r.compile) ↔ r.EndsUsable patterns := by
  simp only [Batch.EndsUsable, EndsUsable, List.getLast?_map, Option.map_eq_some_iff]
  exact exists_comm

theorem MarksUnusable.marked (h : r.MarksUnusable marks patterns) :
    Batch.Marked marks (patterns.map r.compile) := by
  obtain ⟨hlength, hunusable⟩ := h
  induction patterns generalizing marks with
  | nil =>
    obtain rfl : marks = [] := by simpa using hlength
    exact .nil
  | cons record rest ih =>
    match marks with
    | mark :: marks =>
      have hrest := ih (Nat.succ.inj hlength) fun i => hunusable (i + 1)
      cases mark with
      | false => exact .keep _ hrest
      | true =>
        obtain ⟨e, he⟩ := hunusable 0 record rfl rfl
        rw [List.map_cons, he]
        exact .put e hrest

/-- What records that do not compile change for the others. Replacements are the same with and
without them, and so are the cells of the others where the run with them succeeds. It does where the
run without them does and, in a chain that ends with such a record, all replacements succeed too. -/
theorem unusable_records (r : Runner) (config : MatchConfig) (patterns : List PatternRecord)
    (samples : List (List Char)) (marks : List Bool) (hmarks : r.MarksUnusable marks patterns) :
    r.replace patterns samples = r.replace (dropMarked marks patterns) samples ∧
    ((∃ found, r.matchSamples config patterns samples = .ok found) ↔
      (∃ found, r.matchSamples config (dropMarked marks patterns) samples = .ok found) ∧
      (config.settings.chain → ¬ r.EndsUsable patterns →
        ∃ replaced, r.replace (dropMarked marks patterns) samples = .ok replaced)) ∧
    ∀ found, r.matchSamples config patterns samples = .ok found →
      ∃ kept, r.matchSamples config (dropMarked marks patterns) samples = .ok kept ∧
        List.Forall₂ (Batch.Keeps marks (patterns.map r.compile)) found kept := by
  have h := hmarks.marked
  simp only [Runner.replace, Runner.matchSamples, ← dropMarked_map]
  refine ⟨Batch.replaceEach_dropMarked h samples, ?_, fun found hfound =>
    Batch.matchFrom_dropMarked h hfound⟩
  simp only [Batch.matchFrom_isOk_iff, Batch.replaceEach_isOk_iff, Batch.outcomes_isOk_iff h,
    endsUsable_iff]
  constructor
  · intro hall
    exact ⟨fun sample hs => (hall sample hs).1,
      fun hchain hlast sample hs => (hall sample hs).2 hchain hlast⟩
  · rintro ⟨hkept, hreplace⟩ sample hs
    exact ⟨hkept sample hs, fun hchain hlast => hreplace hchain hlast sample hs⟩

def unknownModifier : PatternRecord := ⟨3, ['a'], ['z'], none, [], false⟩

theorem unusable_records_words :
    words.MarksUnusable [false, true, false] [aToB, unknownModifier, findB] ∧
    ∃ entry kept,
      words.matchSamples Capabilities.words.config [aToB, unknownModifier, findB] [['x', 'a']] =
        .ok [entry] ∧
      words.matchSamples Capabilities.words.config [aToB, findB] [['x', 'a']] = .ok [kept] ∧
      kept.outcomes = dropMarked [false, true, false] entry.outcomes ∧
      entry.outcomes.length = 3 := by
  have hmarks : words.MarksUnusable [false, true, false] [aToB, unknownModifier, findB] := by
    refine ⟨rfl, ?_⟩
    rintro (_ | _ | _ | i) record hrecord hmark
    · contradiction
    · obtain rfl : unknownModifier = record := Option.some.inj hrecord
      exact ⟨_, rfl⟩
    · contradiction
    · simp at hmark
  obtain ⟨-, -, hkeeps⟩ := words.unusable_records Capabilities.words.config
    [aToB, unknownModifier, findB] [['x', 'a']] [false, true, false] hmarks
  have hrun : ∃ entry, words.matchSamples Capabilities.words.config
      [aToB, unknownModifier, findB] [['x', 'a']] = .ok [entry] := ⟨_, rfl⟩
  obtain ⟨entry, hentry⟩ := hrun
  obtain ⟨kept, hkept, hrelated⟩ := hkeeps _ hentry
  cases hrelated with
  | cons hfirst hrest =>
    cases hrest
    exact ⟨hmarks, entry, _, hentry, hkept, hfirst.outcomes, hfirst.length⟩

def givesUp : Runner where
  capabilities := .words
  defaults := Capabilities.words.defaults
  dialect.kind := .fancy
  dialect.compile _ _ := .ok ⟨[], fun _ start =>
    if start = 0 then .ok (some ⟨⟨0, 1⟩, []⟩) else .error (.failed "limit exceeded")⟩

def firstByte : PatternRecord := ⟨1, [], [], none, [], false⟩

/-- A faulty record makes a run fail that succeeds without it: the pattern before it is no longer
the last, so its second match is looked for. -/
theorem unusable_record_fails :
    (∃ e, givesUp.compile unknownModifier = .error e) ∧
    (∃ found, givesUp.matchSamples Capabilities.words.config [firstByte] [['x', 'a']] =
      .ok found) ∧
    givesUp.matchSamples Capabilities.words.config [firstByte, unknownModifier] [['x', 'a']] =
      .error ⟨1, .failed "limit exceeded"⟩ :=
  ⟨⟨_, rfl⟩, ⟨_, rfl⟩, rfl⟩

end Runner

end RegexGateway
