import RegexGateway.Proofs.Batch.Unusable

namespace RegexGateway

/-- A text after the replacements of a pattern, if there is one. -/
def Attempt.rewrite : Attempt → List Char → Except RunFault (List Char)
  | .error _, text => .ok text
  | .ok p, text => p.replaceAll text

namespace Batch

variable {config : MatchConfig} {attempts : List Attempt} {text : List Char}

theorem replaceText_eq (attempts : List Attempt) (text : List Char) :
    replaceText attempts text =
      (attempts.map Attempt.rewrite).foldlM (fun text rewrite => rewrite text) text := by
  induction attempts generalizing text with
  | nil => rfl
  | cons a rest ih =>
    cases a with
    | error e => exact ih text
    | ok p => exact bind_congr fun next => ih next

theorem replaceText_congr {attempts' : List Attempt}
    (h : attempts.map Attempt.rewrite = attempts'.map Attempt.rewrite) (text : List Char) :
    replaceText attempts text = replaceText attempts' text := by
  rw [replaceText_eq, replaceText_eq, h]

theorem replaceEach_congr {attempts' : List Attempt}
    (h : attempts.map Attempt.rewrite = attempts'.map Attempt.rewrite)
    (samples : List (List Char)) : replaceEach attempts samples = replaceEach attempts' samples := by
  induction samples with
  | nil => rfl
  | cons sample rest ih => simp only [replaceEach, replaceText_congr h, ih]

theorem textAt_congr {attempts' : List Attempt}
    (h : attempts.map Attempt.rewrite = attempts'.map Attempt.rewrite) (j : Nat) :
    textAt config attempts j text = textAt config attempts' j text := by
  have htake : (attempts.take j).map Attempt.rewrite = (attempts'.take j).map Attempt.rewrite := by
    rw [List.map_take, List.map_take, h]
  simp only [textAt, replaceText_congr htake]

theorem textAt_succ_ok {p : CompiledPattern} {rest : List Attempt} {j : Nat} {seen : List Char}
    (h : textAt config (.ok p :: rest) (j + 1) text = .ok seen) :
    ∃ next, (if config.settings.chain then p.replaceAll text else .ok text) = .ok next ∧
      textAt config rest j next = .ok seen := by
  cases hchain : config.settings.chain with
  | false => exact ⟨text, rfl, by simpa [textAt, hchain] using h⟩
  | true =>
    simp only [textAt, hchain, if_true, List.take_succ_cons] at h
    obtain ⟨next, hnext, hseen⟩ := replaceText_ok_cons.1 h
    exact ⟨next, hnext, by simpa [textAt, hchain] using hseen⟩

theorem outcomes_isOk_iff_alone :
    (∃ cells, outcomes config attempts text = .ok cells) ↔
      ∀ j attempt, attempts[j]? = some attempt → ∃ seen, textAt config attempts j text = .ok seen ∧
        ∃ cell, outcomes config [attempt] seen = .ok [cell] := by
  constructor
  · rintro ⟨cells, hcells⟩ j attempt hj
    obtain ⟨cell, seen, -, hseen, halone⟩ := outcomes_cell hcells hj
    exact ⟨seen, hseen, cell, halone⟩
  · intro h
    induction attempts generalizing text with
    | nil => exact ⟨[], rfl⟩
    | cons attempt rest ih =>
      cases attempt with
      | error e =>
        obtain ⟨more, hmore⟩ := ih fun j => h (j + 1)
        exact ⟨_, outcomes_error_cons.2 ⟨more, hmore, rfl⟩⟩
      | ok p =>
        obtain ⟨seen, hseen, cell, halone⟩ := h 0 (.ok p) rfl
        obtain rfl : text = seen := Except.ok.inj (textAt_zero.symm.trans hseen)
        obtain ⟨found, hfound, -⟩ := outcomes_ok_cons.1 halone
        by_cases hrest : rest = []
        · subst hrest
          exact ⟨[cell], halone⟩
        · obtain ⟨second, hsecond⟩ := List.exists_mem_of_ne_nil rest hrest
          obtain ⟨i, hi⟩ := List.mem_iff_getElem?.1 hsecond
          obtain ⟨_, hseen', -⟩ := h (i + 1) second hi
          obtain ⟨next, hnext, -⟩ := textAt_succ_ok hseen'
          have hmore : ∃ more, outcomes config rest next = .ok more := by
            apply ih
            intro j attempt hj
            obtain ⟨seen, hseen, halone⟩ := h (j + 1) attempt hj
            exact ⟨seen, (textAt_ok_cons hnext).symm.trans hseen, halone⟩
          obtain ⟨more, hmore⟩ := hmore
          exact ⟨_, outcomes_ok_cons.2
            ⟨found, hfound, next, (rewrite_eq hrest).trans hnext, more, hmore, rfl⟩⟩

section

variable {front back : List Attempt} {a a' : Attempt}

theorem map_rewrite_swap (h : a'.rewrite = a.rewrite) :
    (front ++ a' :: back).map Attempt.rewrite = (front ++ a :: back).map Attempt.rewrite := by
  simp only [List.map_append, List.map_cons, h]

theorem getElem?_swap {j : Nat} (hj : j ≠ front.length) :
    (front ++ a' :: back)[j]? = (front ++ a :: back)[j]? := by
  have hset : front ++ a' :: back = (front ++ a :: back).set front.length a' := by simp
  rw [hset, List.getElem?_set_ne hj.symm]

theorem getElem?_swapped : (front ++ a :: back)[front.length]? = some a := by simp

/-- A run with an attempt in the place of one that rewrites alike, and that shows a cell wherever it
does: it succeeds if the run with that one does, and the attempt shows a cell too. -/
theorem outcomes_swap_isOk (hrewrite : a'.rewrite = a.rewrite)
    (hcell : ∀ seen, (∃ cell', outcomes config [a'] seen = .ok [cell']) →
      ∃ cell, outcomes config [a] seen = .ok [cell]) :
    (∃ cells', outcomes config (front ++ a' :: back) text = .ok cells') ↔
      (∃ cells, outcomes config (front ++ a :: back) text = .ok cells) ∧
      ∀ seen, textAt config (front ++ a :: back) front.length text = .ok seen →
        ∃ cell', outcomes config [a'] seen = .ok [cell'] := by
  simp only [outcomes_isOk_iff_alone, textAt_congr (map_rewrite_swap hrewrite)]
  constructor
  · intro h
    constructor
    · intro j attempt hj
      by_cases hplace : j = front.length
      · subst hplace
        obtain rfl : a = attempt := Option.some.inj (getElem?_swapped.symm.trans hj)
        obtain ⟨seen, hseen, halone⟩ := h _ a' getElem?_swapped
        exact ⟨seen, hseen, hcell seen halone⟩
      · exact h j attempt ((getElem?_swap hplace).trans hj)
    · intro seen hseen
      obtain ⟨seen', hseen', halone⟩ := h _ a' getElem?_swapped
      obtain rfl : seen = seen' := Except.ok.inj (hseen.symm.trans hseen')
      exact halone
  · rintro ⟨h, hown⟩ j attempt hj
    by_cases hplace : j = front.length
    · subst hplace
      obtain rfl : a' = attempt := Option.some.inj (getElem?_swapped.symm.trans hj)
      obtain ⟨seen, hseen, -⟩ := h _ a getElem?_swapped
      exact ⟨seen, hseen, hown seen hseen⟩
    · exact h j attempt ((getElem?_swap hplace).symm.trans hj)

theorem outcomes_error_alone {e : PatternError} {cell : PatternOutcome} :
    outcomes config [.error e] text = .ok [cell] ↔ cell = .ofError e := by
  simp [outcomes, eq_comm]

theorem outcomes_ok_alone {p : CompiledPattern} {cell : PatternOutcome} :
    outcomes config [.ok p] text = .ok [cell] ↔
      ∃ found, p.execute text = .ok found ∧ cell = .ofOccurrences config p.id found := by
  simp [outcomes, bind_eq_ok, eq_comm (a := cell)]

theorem outcomes_cell_pair {attempts' : List Attempt} {cells cells' : List PatternOutcome} {i : Nat}
    (htext : textAt config attempts' i text = textAt config attempts i text)
    (h : outcomes config attempts text = .ok cells)
    (h' : outcomes config attempts' text = .ok cells') (hi : attempts[i]? = some a)
    (hi' : attempts'[i]? = some a') :
    ∃ seen cell cell', cells[i]? = some cell ∧ cells'[i]? = some cell' ∧
      outcomes config [a] seen = .ok [cell] ∧ outcomes config [a'] seen = .ok [cell'] := by
  obtain ⟨cell, seen, hcell, hseen, halone⟩ := outcomes_cell h hi
  obtain ⟨cell', seen', hcell', hseen', halone'⟩ := outcomes_cell h' hi'
  obtain rfl : seen = seen' := Except.ok.inj (hseen.symm.trans (htext.symm.trans hseen'))
  exact ⟨seen, cell, cell', hcell, hcell', halone, halone'⟩

theorem outcomes_swap_cells (hrewrite : a'.rewrite = a.rewrite) {cells cells' : List PatternOutcome}
    (h : outcomes config (front ++ a :: back) text = .ok cells)
    (h' : outcomes config (front ++ a' :: back) text = .ok cells') :
    (∀ i, i ≠ front.length → cells'[i]? = cells[i]?) ∧
    ∃ seen cell cell', cells[front.length]? = some cell ∧ cells'[front.length]? = some cell' ∧
      outcomes config [a] seen = .ok [cell] ∧ outcomes config [a'] seen = .ok [cell'] := by
  have htext : ∀ j, textAt config (front ++ a' :: back) j text =
      textAt config (front ++ a :: back) j text := textAt_congr (map_rewrite_swap hrewrite)
  refine ⟨?_, outcomes_cell_pair (htext _) h h' getElem?_swapped getElem?_swapped⟩
  intro i hi
  cases hattempt : (front ++ a :: back)[i]? with
  | none =>
    have hlength : (front ++ a' :: back).length = (front ++ a :: back).length := by simp
    rw [List.getElem?_eq_none_iff] at hattempt
    rw [List.getElem?_eq_none (by rwa [outcomes_length h', hlength]),
      List.getElem?_eq_none (by rwa [outcomes_length h])]
  | some attempt =>
    obtain ⟨seen, cell, cell', hcell, hcell', halone, halone'⟩ :=
      outcomes_cell_pair (htext i) h h' hattempt ((getElem?_swap hi).trans hattempt)
    obtain rfl : cell = cell' := by simpa [halone] using halone'
    rw [hcell, hcell']

theorem matchFrom_forall₂ {attempts' : List Attempt} {R : SampleMatches → SampleMatches → Prop}
    (hR : ∀ id sample cells cells', outcomes config attempts sample = .ok cells →
      outcomes config attempts' sample = .ok cells' →
      R ⟨id, config.presentSample sample, cells, .zero⟩
        ⟨id, config.presentSample sample, cells', .zero⟩)
    {id : Nat} {samples : List (List Char)} {found found' : List SampleMatches}
    (h : matchFrom config attempts id samples = .ok found)
    (h' : matchFrom config attempts' id samples = .ok found') : List.Forall₂ R found found' := by
  induction samples generalizing id found found' with
  | nil =>
    obtain rfl : [] = found := by simpa [matchFrom] using h
    obtain rfl : [] = found' := by simpa [matchFrom] using h'
    exact .nil
  | cons sample rest ih =>
    obtain ⟨entry, hentry, more, hmore, rfl⟩ := matchFrom_cons.1 h
    obtain ⟨entry', hentry', more', hmore', rfl⟩ := matchFrom_cons.1 h'
    obtain ⟨cells, hcells, rfl⟩ := matchSample_eq_ok.1 hentry
    obtain ⟨cells', hcells', rfl⟩ := matchSample_eq_ok.1 hentry'
    exact .cons (hR id sample cells cells' hcells hcells') (ih hmore hmore')

end

end Batch

end RegexGateway
