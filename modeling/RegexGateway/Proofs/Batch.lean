import RegexGateway.Batch
import RegexGateway.Proofs.Dialect.Literal
import RegexGateway.Proofs.Except
import RegexGateway.Proofs.Pattern.Compile

namespace RegexGateway

def Attempt.regexId : Attempt → Int
  | .ok p => p.id
  | .error e => e.regexId

theorem Runner.compile_regexId (r : Runner) (record : PatternRecord) :
    Attempt.regexId (r.compile record) = record.id := by
  cases r.compileCase record with
  | modifiers hmodifiers =>
    rw [compile_modifiers hmodifiers]
    rfl
  | delimiters hmodifiers hdelimiters =>
    rw [compile_delimiters hmodifiers hdelimiters]
    rfl
  | regex hmodifiers hdelimiters hregex =>
    rw [compile_regex hmodifiers hdelimiters hregex]
    rfl
  | template hmodifiers hdelimiters hregex htemplate =>
    rw [compile_template hmodifiers hdelimiters hregex htemplate]
    rfl
  | usable hmodifiers hdelimiters hregex htemplate =>
    obtain ⟨p, hp, hid⟩ := compile_usable hmodifiers hdelimiters hregex htemplate
    rw [hp]
    exact hid

namespace Batch

variable {config : MatchConfig} {attempts : List Attempt} {text : List Char}

theorem outcomes_error_cons {e : PatternError} {rest : List Attempt}
    {cells : List PatternOutcome} :
    outcomes config (.error e :: rest) text = .ok cells ↔
      ∃ more, outcomes config rest text = .ok more ∧ cells = .ofError e :: more := by
  simp [outcomes, map_eq_ok]

theorem outcomes_ok_cons {p : CompiledPattern} {rest : List Attempt}
    {cells : List PatternOutcome} :
    outcomes config (.ok p :: rest) text = .ok cells ↔
      ∃ found, p.execute text = .ok found ∧
      ∃ next, (if config.settings.chain && !rest.isEmpty then p.replaceAll text else .ok text) =
        .ok next ∧
      ∃ more, outcomes config rest next = .ok more ∧
        cells = .ofOccurrences config p.id found :: more := by
  by_cases hchain : config.settings.chain && !rest.isEmpty
  · simp only [outcomes, hchain, if_true, bind_eq_ok, bind_pure_comp, map_eq_ok]
  · simp only [outcomes, hchain, Bool.false_eq_true, if_false, bind_eq_ok, bind_pure_comp,
      map_eq_ok]

theorem outcomes_regexId {cells : List PatternOutcome}
    (h : outcomes config attempts text = .ok cells) :
    cells.map (·.regexId) = attempts.map Attempt.regexId := by
  induction attempts generalizing text cells with
  | nil =>
    obtain rfl : [] = cells := by simpa [outcomes] using h
    rfl
  | cons attempt rest ih =>
    cases attempt with
    | error e =>
      obtain ⟨more, hmore, rfl⟩ := outcomes_error_cons.1 h
      exact congrArg (e.regexId :: ·) (ih hmore)
    | ok p =>
      obtain ⟨found, -, next, -, more, hmore, rfl⟩ := outcomes_ok_cons.1 h
      exact congrArg (p.id :: ·) (ih hmore)

theorem outcomes_length {cells : List PatternOutcome}
    (h : outcomes config attempts text = .ok cells) : cells.length = attempts.length := by
  simpa using congrArg List.length (outcomes_regexId h)

/-- The text that the attempt at `j` runs in. -/
def textAt (config : MatchConfig) (attempts : List Attempt) (j : Nat) (text : List Char) :
    Except RunFault (List Char) :=
  if config.settings.chain then replaceText (attempts.take j) text else .ok text

theorem textAt_zero : textAt config attempts 0 text = .ok text := by
  simp [textAt, replaceText]

theorem textAt_error_cons {e : PatternError} {rest : List Attempt} {j : Nat} :
    textAt config (.error e :: rest) (j + 1) text = textAt config rest j text := rfl

theorem textAt_ok_cons {p : CompiledPattern} {rest : List Attempt} {next : List Char} {j : Nat}
    (h : (if config.settings.chain then p.replaceAll text else .ok text) = .ok next) :
    textAt config (.ok p :: rest) (j + 1) text = textAt config rest j next := by
  unfold textAt
  split at h
  · rename_i hchain
    simp [hchain, replaceText, h, bind, Except.bind]
  · rename_i hchain
    obtain rfl : text = next := by simpa using h
    simp [hchain]

/-- Each cell of a run is the one of its attempt alone, in the text that it runs in. -/
theorem outcomes_cell {cells : List PatternOutcome} {j : Nat} {attempt : Attempt}
    (h : outcomes config attempts text = .ok cells) (hj : attempts[j]? = some attempt) :
    ∃ cell seen, cells[j]? = some cell ∧ textAt config attempts j text = .ok seen ∧
      outcomes config [attempt] seen = .ok [cell] := by
  induction attempts generalizing text cells j with
  | nil => simp at hj
  | cons head rest ih =>
    cases head with
    | error e =>
      obtain ⟨more, hmore, rfl⟩ := outcomes_error_cons.1 h
      cases j with
      | zero =>
        obtain rfl : .error e = attempt := by simpa using hj
        exact ⟨.ofError e, text, rfl, textAt_zero, rfl⟩
      | succ j =>
        obtain ⟨cell, seen, hcell, hseen, halone⟩ := ih hmore (by simpa using hj)
        exact ⟨cell, seen, by simpa using hcell, textAt_error_cons.trans hseen, halone⟩
    | ok p =>
      obtain ⟨found, hfound, next, hnext, more, hmore, rfl⟩ := outcomes_ok_cons.1 h
      cases j with
      | zero =>
        obtain rfl : .ok p = attempt := by simpa using hj
        have halone : outcomes config [.ok p] text = .ok [.ofOccurrences config p.id found] :=
          outcomes_ok_cons.2 ⟨found, hfound, text, by simp, [], rfl, rfl⟩
        exact ⟨.ofOccurrences config p.id found, text, rfl, textAt_zero, halone⟩
      | succ j =>
        obtain ⟨cell, seen, hcell, hseen, halone⟩ := ih hmore (by simpa using hj)
        -- A later pattern is there, so the text was rewritten if the patterns are in a chain.
        have hrest : rest.isEmpty = false := by
          cases rest with
          | nil => simp at hj
          | cons => rfl
        rw [hrest, Bool.not_false, Bool.and_true] at hnext
        exact ⟨cell, seen, by simpa using hcell, (textAt_ok_cons hnext).trans hseen, halone⟩

theorem matchSample_eq_ok {id : Nat} {sample : List Char} {entry : SampleMatches} :
    matchSample config attempts id sample = .ok entry ↔
      ∃ cells, outcomes config attempts sample = .ok cells ∧
        entry = ⟨id, config.presentSample sample, cells, .zero⟩ := by
  simp [matchSample, map_eq_ok]

theorem matchFrom_cons {id : Nat} {sample : List Char} {rest : List (List Char)}
    {found : List SampleMatches} :
    matchFrom config attempts id (sample :: rest) = .ok found ↔
      ∃ entry, matchSample config attempts id sample = .ok entry ∧
      ∃ more, matchFrom config attempts (id + 1) rest = .ok more ∧ found = entry :: more := by
  simp [matchFrom, bind_eq_ok, map_eq_ok]

theorem matchFrom_length {id : Nat} {samples : List (List Char)} {found : List SampleMatches}
    (h : matchFrom config attempts id samples = .ok found) : found.length = samples.length := by
  induction samples generalizing id found with
  | nil =>
    obtain rfl : [] = found := by simpa [matchFrom] using h
    rfl
  | cons sample rest ih =>
    obtain ⟨entry, -, more, hmore, rfl⟩ := matchFrom_cons.1 h
    simp [ih hmore]

theorem matchFrom_entry {id i : Nat} {samples : List (List Char)} {sample : List Char}
    {found : List SampleMatches} (h : matchFrom config attempts id samples = .ok found)
    (hi : samples[i]? = some sample) :
    ∃ entry, found[i]? = some entry ∧ matchSample config attempts (id + i) sample = .ok entry := by
  induction samples generalizing id i found with
  | nil => simp at hi
  | cons first rest ih =>
    obtain ⟨entry, hentry, more, hmore, rfl⟩ := matchFrom_cons.1 h
    cases i with
    | zero =>
      obtain rfl : first = sample := by simpa using hi
      exact ⟨entry, rfl, hentry⟩
    | succ i =>
      obtain ⟨entry, hget, hentry⟩ := ih hmore (by simpa using hi)
      exact ⟨entry, by simpa using hget, by rwa [Nat.add_right_comm] at hentry⟩

end Batch

namespace Runner

/-- The text in which the pattern at `j` is looked for: the sample itself or, in a chain, what the
replacements of the patterns before it leave of it. -/
def Sees (r : Runner) (config : MatchConfig) (patterns : List PatternRecord) (j : Nat)
    (sample text : List Char) : Prop :=
  if config.settings.chain then ∃ d, r.replace (patterns.take j) [sample] = .ok [⟨text, d⟩]
  else text = sample

theorem sees_of_textAt {r : Runner} {config : MatchConfig} {patterns : List PatternRecord} {j : Nat}
    {sample text : List Char}
    (h : Batch.textAt config (patterns.map r.compile) j sample = .ok text) :
    r.Sees config patterns j sample text := by
  unfold Batch.textAt at h
  unfold Sees
  split at h
  · rename_i hchain
    rw [if_pos hchain]
    rw [← List.map_take] at h
    have hreplace : r.replace (patterns.take j) [sample] = .ok [⟨text, .zero⟩] := by
      simp only [Runner.replace, Batch.replaceEach, h, bind, Except.bind, pure, Except.pure]
    exact ⟨.zero, hreplace⟩
  · rename_i hchain
    rw [if_neg hchain]
    exact (Except.ok.inj h).symm

theorem sees_iff {r : Runner} {config : MatchConfig} {patterns : List PatternRecord} {j : Nat}
    {sample text : List Char} :
    r.Sees config patterns j sample text ↔
      Batch.textAt config (patterns.map r.compile) j sample = .ok text := by
  refine ⟨?_, sees_of_textAt⟩
  unfold Sees Batch.textAt
  cases config.settings.chain with
  | false => simp [eq_comm]
  | true =>
    simp only [if_true, Runner.replace, Batch.replaceEach, bind_eq_ok, ← List.map_take]
    rintro ⟨d, result, hresult, more, -, hd⟩
    obtain ⟨⟨rfl, -⟩, -⟩ : (result = text ∧ Duration.zero = d) ∧ more = [] := by
      simpa [pure, Except.pure] using hd
    exact hresult

/-- A run has an entry for each sample, and in it a cell for each pattern: the cell of a run of that
pattern alone, in the text that it sees. -/
theorem matchSamples_cells (r : Runner) (config : MatchConfig) (patterns : List PatternRecord)
    (samples : List (List Char)) (found : List SampleMatches)
    (h : r.matchSamples config patterns samples = .ok found) :
    found.length = samples.length ∧
    ∀ (i : Nat) (sample : List Char), samples[i]? = some sample →
      ∃ entry, found[i]? = some entry ∧ entry.sampleId = i ∧
        entry.outcomes.map (·.regexId) = patterns.map (·.id) ∧
        ∀ (j : Nat) (record : PatternRecord), patterns[j]? = some record →
          ∃ cell text, entry.outcomes[j]? = some cell ∧ r.Sees config patterns j sample text ∧
            ∃ alone, r.matchSamples config [record] [text] = .ok [alone] ∧
              alone.outcomes = [cell] := by
  refine ⟨Batch.matchFrom_length h, ?_⟩
  intro i sample hi
  obtain ⟨entry, hget, hentry⟩ := Batch.matchFrom_entry h hi
  obtain ⟨cells, hcells, rfl⟩ := Batch.matchSample_eq_ok.1 hentry
  have hids : cells.map (·.regexId) = patterns.map (·.id) := by
    rw [Batch.outcomes_regexId hcells, List.map_map]
    exact List.map_congr_left fun record _ => r.compile_regexId record
  refine ⟨_, hget, Nat.zero_add i, hids, ?_⟩
  intro j record hj
  have hattempt : (patterns.map r.compile)[j]? = some (r.compile record) := by
    rw [List.getElem?_map, hj, Option.map_some]
  obtain ⟨cell, text, hcell, htext, halone⟩ := Batch.outcomes_cell hcells hattempt
  have hentry' : Batch.matchSample config [r.compile record] 0 text =
      .ok ⟨0, config.presentSample text, [cell], .zero⟩ :=
    Batch.matchSample_eq_ok.2 ⟨[cell], halone, rfl⟩
  have hrun : r.matchSamples config [record] [text] =
      .ok [⟨0, config.presentSample text, [cell], .zero⟩] :=
    Batch.matchFrom_cons.2 ⟨_, hentry', [], rfl, rfl⟩
  exact ⟨cell, text, hcell, sees_of_textAt htext, _, hrun, rfl⟩

def words : Runner := ⟨.words, Capabilities.words.defaults, .literal⟩

def aToB : PatternRecord := ⟨1, ['a'], ['g'], none, ['b'], false⟩

def findB : PatternRecord := ⟨2, ['b'], ['g'], none, [], false⟩

theorem matchSamples_cells_words :
    ∃ found, words.matchSamples Capabilities.words.config [aToB, findB] [['x', 'a']] = .ok found ∧
      found.length = 1 ∧
      ∃ cell text, cell.occurrences = [⟨['b'], [], 1⟩] ∧
        words.Sees Capabilities.words.config [aToB, findB] 1 ['x', 'a'] text ∧
        ∃ alone, words.matchSamples Capabilities.words.config [findB] [text] = .ok [alone] ∧
          alone.outcomes = [cell] := by
  have hrun : words.matchSamples Capabilities.words.config [aToB, findB] [['x', 'a']] =
      .ok [⟨0, ['x', 'a'], [⟨1, .valid, .zero, [⟨['a'], [], 1⟩]⟩,
        ⟨2, .valid, .zero, [⟨['b'], [], 1⟩]⟩], .zero⟩] := by rfl
  obtain ⟨hlength, hentries⟩ := words.matchSamples_cells _ _ _ _ hrun
  obtain ⟨entry, hentry, -, -, hcells⟩ := hentries 0 _ rfl
  obtain rfl := Option.some.inj hentry
  obtain ⟨cell, text, hcell, hsees, halone⟩ := hcells 1 findB rfl
  obtain rfl := Option.some.inj hcell
  exact ⟨_, hrun, hlength, _, text, rfl, hsees, halone⟩

end Runner

end RegexGateway
