import RegexGateway.Regex.Search

namespace RegexGateway

/-- A stretch that does not run backwards, in a text of some length. -/
structure Span.Within (s : Span) (length : Nat) : Prop where
  start_le_stop : s.start ≤ s.stop
  stop_le : s.stop ≤ length

/-- A match whose spans do not run backwards, with so many groups. -/
structure Match.Within (m : Match) (length count : Nat) : Prop where
  span : m.span.Within length
  groups : ∀ g, some g ∈ m.groups → g.Within length
  groups_length : m.groups.length = count

namespace Regex

namespace Thread

/-- A thread that stands behind the place where it began, and behind the start of every group that
it is in. -/
structure Sound (t : Thread) (length origin : Nat) : Prop where
  origin_le : origin ≤ t.pos
  pos_le : t.pos ≤ length
  opened : ∀ index start, .close index start ∈ t.tasks → start ≤ t.pos
  groups : ∀ index span, (index, span) ∈ t.groups → span.Within length

variable {t : Thread} {length origin : Nat}

theorem Sound.withTasks (h : t.Sound length origin) {tasks : List Task}
    (htasks : ∀ index start, .close index start ∈ tasks → start ≤ t.pos) :
    (t.withTasks tasks).Sound length origin :=
  ⟨h.origin_le, h.pos_le, htasks, h.groups⟩

theorem Sound.push (h : t.Sound length origin) (tasks : List Task) {rest : List Task}
    (htasks : ∀ index start, .close index start ∉ tasks)
    (hrest : ∀ index start, .close index start ∈ rest → start ≤ t.pos) :
    (t.withTasks (tasks ++ rest)).Sound length origin := by
  apply h.withTasks
  intro index start hmem
  rcases List.mem_append.1 hmem with hmem | hmem
  · exact absurd hmem (htasks index start)
  · exact hrest index start hmem

end Thread

def Move.threads : Move → List Thread
  | .go threads | .choose _ threads => threads

namespace Thread

variable {t : Thread} {text : Array Char} {task : Task} {rest : List Task} {origin : Nat}

theorem step_run_sound (h : t.Sound text.size origin) {node : Node}
    (hrest : ∀ index start, .close index start ∈ rest → start ≤ t.pos) :
    ∀ t' ∈ (t.step text (.run node) rest).threads, t'.Sound text.size origin := by
  have hdone : (t.withTasks rest).Sound text.size origin := h.withTasks hrest
  intro t' ht'
  cases node with
  | empty =>
    obtain rfl := List.mem_singleton.1 ht'
    exact hdone
  | set members =>
    simp only [step] at ht'
    split at ht'
    · exact absurd ht' List.not_mem_nil
    · rename_i c hc
      have hlt := (Array.getElem?_eq_some_iff.1 hc).1
      simp only [Move.threads] at ht'
      split at ht'
      · obtain rfl := List.mem_singleton.1 ht'
        exact ⟨Nat.le_succ_of_le h.origin_le, hlt,
          fun index start hmem => Nat.le_succ_of_le (hrest index start hmem), h.groups⟩
      · exact absurd ht' List.not_mem_nil
  | look kind =>
    simp only [step, Move.threads] at ht'
    split at ht'
    · obtain rfl := List.mem_singleton.1 ht'
      exact hdone
    · exact absurd ht' List.not_mem_nil
  | capture index sub =>
    obtain rfl := List.mem_singleton.1 ht'
    apply h.withTasks
    intro i start hmem
    simp only [List.mem_cons, reduceCtorEq, false_or, Task.close.injEq] at hmem
    rcases hmem with ⟨-, rfl⟩ | hmem
    · exact Nat.le_refl _
    · exact hrest i start hmem
  | concat parts =>
    obtain rfl := List.mem_singleton.1 ht'
    exact h.push _ (by simp) hrest
  | choice id branches =>
    obtain ⟨branch, -, rfl⟩ := List.mem_map.1 ht'
    exact h.push [.run branch] (by simp) hrest
  | plus id greedy sub =>
    obtain rfl := List.mem_singleton.1 ht'
    exact h.push [.run sub, .again id greedy sub] (by simp) hrest

theorem step_sound (h : t.Sound text.size origin) (ht : t.tasks = task :: rest) :
    ∀ t' ∈ (t.step text task rest).threads, t'.Sound text.size origin := by
  have hrest : ∀ index start, .close index start ∈ rest → start ≤ t.pos := by
    intro index start hmem
    exact h.opened index start (ht ▸ List.mem_cons_of_mem _ hmem)
  cases task with
  | run node => exact step_run_sound h hrest
  | close index start =>
    intro t' ht'
    obtain rfl := List.mem_singleton.1 ht'
    have hstart : start ≤ t.pos := h.opened index start (ht ▸ List.mem_cons_self)
    refine ⟨h.origin_le, h.pos_le, hrest, ?_⟩
    intro i span hmem
    rcases List.mem_cons.1 hmem with heq | hmem
    · obtain ⟨-, rfl⟩ := Prod.mk.inj heq
      exact ⟨hstart, h.pos_le⟩
    · exact h.groups i span hmem
  | again id greedy sub =>
    have hmore : (t.withTasks (.run sub :: .again id greedy sub :: rest)).Sound text.size origin :=
      h.push [.run sub, .again id greedy sub] (by simp) hrest
    have hdone := h.withTasks hrest
    intro t' ht'
    simp only [step, Move.threads] at ht'
    split at ht' <;> simp only [List.mem_cons, List.not_mem_nil, or_false] at ht' <;>
      rcases ht' with rfl | rfl <;> assumption

end Thread

theorem explore_sound {choices fuel origin : Nat} {text : Array Char} {visited : Visited}
    {threads : List Thread} {t : Thread} (hthreads : ∀ t ∈ threads, t.Sound text.size origin)
    (hfound : (explore choices text fuel visited threads).1 = some t) :
    t.Sound text.size origin := by
  induction fuel generalizing visited threads with
  | zero => simp [explore] at hfound
  | succ fuel ih =>
    cases threads with
    | nil => simp [explore] at hfound
    | cons first others =>
      obtain ⟨hfirst, hothers⟩ := List.forall_mem_cons.1 hthreads
      rw [explore] at hfound
      cases htasks : first.tasks with
      | nil =>
        rw [htasks] at hfound
        exact Option.some.inj hfound ▸ hfirst
      | cons task rest =>
        have hstep := Thread.step_sound hfirst htasks
        rw [htasks] at hfound
        simp only at hfound
        generalize first.step text task rest = move at hstep hfound
        cases move with
        | go threads => exact ih (List.forall_mem_append.2 ⟨hstep, hothers⟩) hfound
        | choose id threads =>
          simp only at hfound
          split at hfound
          · exact ih hothers hfound
          · exact ih (List.forall_mem_append.2 ⟨hstep, hothers⟩) hfound

namespace Program

variable {p : Program} {text : Array Char}

theorem matchFrom_within {visited : Visited} {pos : Nat} {m : Match} (hpos : pos ≤ text.size)
    (hfound : (p.matchFrom text visited pos).1 = some m) :
    m.span.start = pos ∧ m.Within text.size p.groupNames.length := by
  simp only [matchFrom, Option.map_eq_some_iff] at hfound
  obtain ⟨t, ht, rfl⟩ := hfound
  have hfirst : ∀ t ∈ [(⟨[.run p.node], pos, []⟩ : Thread)], t.Sound text.size pos := by
    intro t ht
    obtain rfl := List.mem_singleton.1 ht
    exact ⟨Nat.le_refl pos, hpos, by simp, by simp⟩
  have hsound := explore_sound hfirst ht
  refine ⟨rfl, ⟨hsound.origin_le, hsound.pos_le⟩, ?_, by simp⟩
  intro g hg
  obtain ⟨i, -, hi⟩ := List.mem_map.1 hg
  obtain ⟨before, after, hgroups, -⟩ := List.lookup_eq_some_iff.1 hi
  exact hsound.groups (i + 1) g (by simp [hgroups])

theorem matchAt?_within {pos : Nat} {m : Match} (hpos : pos ≤ text.size)
    (hfound : p.matchAt? text pos = some m) :
    m.span.start = pos ∧ m.Within text.size p.groupNames.length :=
  matchFrom_within hpos hfound

theorem searchFrom_within {count pos : Nat} {visited : Visited} {m : Match}
    (hpos : pos + count ≤ text.size + 1) (hfound : p.searchFrom text count visited pos = some m) :
    pos ≤ m.span.start ∧ m.Within text.size p.groupNames.length := by
  induction count generalizing visited pos with
  | zero => simp [searchFrom] at hfound
  | succ count ih =>
    rw [searchFrom] at hfound
    split at hfound
    · rename_i m' visited' hmatch
      obtain rfl := Option.some.inj hfound
      have hmatch' : (p.matchFrom text visited pos).1 = some m' := by rw [hmatch]
      obtain ⟨hstart, hwithin⟩ := matchFrom_within (by omega) hmatch'
      exact ⟨Nat.le_of_eq hstart.symm, hwithin⟩
    · obtain ⟨hstart, hwithin⟩ := ih (by omega) hfound
      exact ⟨Nat.le_of_succ_le hstart, hwithin⟩

theorem search?_within {start : Nat} {m : Match} (hstart : start ≤ text.size)
    (hfound : p.search? text start = some m) :
    start ≤ m.span.start ∧ m.Within text.size p.groupNames.length :=
  searchFrom_within (by omega) hfound

end Program

end Regex

end RegexGateway
