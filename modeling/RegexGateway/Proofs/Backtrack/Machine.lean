import RegexGateway.Proofs.Backtrack.Thread

namespace RegexGateway

namespace Backtrack

namespace Move

def threads : Move → List Thread
  | fail | refute _ => []
  | go thread | cut _ thread => [thread]
  | fork first second => [first, second]

theorem threads_ofRound (greedy : Bool) (more done : Thread) (t : Thread) :
    t ∈ (ofRound greedy more done).threads ↔ t = more ∨ t = done := by
  cases greedy <;> simp [ofRound, threads, or_comm]

end Move

namespace Subject

theorem mem_moveOrFail {t t' : Thread} {rest : List Task} {found : Option Nat} :
    t' ∈ (moveOrFail t rest found).threads ↔ ∃ pos, found = some pos ∧ t' = t.movedTo pos rest := by
  cases found <;> simp [moveOrFail, Move.threads]

theorem mem_goIf {t t' : Thread} {holds : Bool} :
    t' ∈ (goIf holds t).threads ↔ holds ∧ t' = t := by
  cases holds <;> simp [goIf, Move.threads]

variable {s : Subject} {height : Nat} {t t' : Thread} {task : Task} {rest : List Task}

theorem enter_keeps {plan : Plan} (h : t' ∈ (s.enter height t rest plan).threads) :
    rest ⊆ t'.tasks ∨ ∃ height, .refute height ∈ t'.tasks := by
  have hrest : ∀ tasks : List Task, rest ⊆ tasks ++ rest := fun tasks =>
    List.subset_append_right tasks rest
  cases plan with
  | literal | any | reference =>
    obtain ⟨pos, -, rfl⟩ := mem_moveOrFail.1 h
    exact .inl (hrest [])
  | look | groupMatched | searchStart =>
    obtain ⟨-, rfl⟩ := mem_goIf.1 h
    exact .inl (hrest [])
  | delegate program index groups =>
    simp only [enter] at h
    split at h
    · obtain rfl := List.mem_singleton.1 h
      exact .inl (hrest [])
    · contradiction
  | sequence parts =>
    obtain rfl := List.mem_singleton.1 h
    exact .inl (hrest _)
  | alternatives branches =>
    match branches with
    | [] => contradiction
    | [branch] =>
      obtain rfl := List.mem_singleton.1 h
      exact .inl (hrest [_])
    | branch :: other :: others =>
      simp only [enter, Move.threads, List.mem_cons, List.not_mem_nil, or_false] at h
      rcases h with rfl | rfl <;> exact .inl (hrest [_])
  | group index sub =>
    obtain rfl := List.mem_singleton.1 h
    exact .inl (hrest [_, _])
  | optional greedy sub =>
    rcases (Move.threads_ofRound _ _ _ _).1 h with rfl | rfl
    · exact .inl (hrest [_])
    · exact .inl (hrest [])
  | star greedy sub =>
    rcases (Move.threads_ofRound _ _ _ _).1 h with rfl | rfl
    · exact .inl (hrest [_, _])
    · exact .inl (hrest [])
  | counted | guarded =>
    obtain rfl := List.mem_singleton.1 h
    exact .inl (hrest [_])
  | lookAround negative back sub =>
    cases negative with
    | false =>
      obtain rfl := List.mem_singleton.1 h
      exact .inl (hrest [_, _, _])
    | true =>
      simp only [enter, Move.threads, List.mem_cons, List.not_mem_nil, or_false] at h
      rcases h with rfl | rfl
      · exact .inr ⟨height, by simp [Thread.doing]⟩
      · exact .inl (hrest [])
  | atomic sub =>
    obtain rfl := List.mem_singleton.1 h
    exact .inl (hrest [_, _])
  | conditional test ifTrue ifFalse =>
    simp only [enter, Move.threads, List.mem_cons, List.not_mem_nil, or_false] at h
    rcases h with rfl | rfl
    · exact .inl (hrest [_, _, _])
    · exact .inl (hrest [_])
  | keepOut =>
    obtain rfl := List.mem_singleton.1 h
    exact .inl (hrest [])

/-- A step leaves what follows the task, unless it starts what comes to nothing. -/
theorem step_keeps (h : t' ∈ (s.step height t rest task).threads) :
    rest ⊆ t'.tasks ∨ ∃ height, .refute height ∈ t'.tasks := by
  have hmore : ∀ first second : Task, rest ⊆ first :: second :: rest := fun first second =>
    List.subset_append_right [first, second] rest
  cases task with
  | run plan => exact enter_keeps h
  | goBack count =>
    obtain ⟨pos, -, rfl⟩ := mem_moveOrFail.1 h
    exact .inl (List.Subset.refl rest)
  | close | returnTo =>
    obtain rfl := List.mem_singleton.1 h
    exact .inl (List.Subset.refl rest)
  | again count least most greedy sub =>
    simp only [step] at h
    split at h
    · obtain rfl := List.mem_singleton.1 h
      exact .inl (List.Subset.refl rest)
    · split at h
      · rcases (Move.threads_ofRound _ _ _ _).1 h with rfl | rfl
        · exact .inl (hmore _ _)
        · exact .inl (List.Subset.refl rest)
      · obtain rfl := List.mem_singleton.1 h
        exact .inl (hmore _ _)
  | guardedAgain count last least greedy sub =>
    simp only [step] at h
    split at h
    · contradiction
    · split at h
      · rcases (Move.threads_ofRound _ _ _ _).1 h with rfl | rfl
        · exact .inl (hmore _ _)
        · exact .inl (List.Subset.refl rest)
      · obtain rfl := List.mem_singleton.1 h
        exact .inl (hmore _ _)
  | refute => contradiction
  | _ =>
    simp only [step] at h
    split at h <;> obtain rfl := List.mem_singleton.1 h <;> exact .inl (List.Subset.refl rest)

end Subject

namespace Subject

variable {text : List Char} {start base height : Nat} {t t' : Thread} {rest : List Task}

theorem enter_good {plan : Plan} (h : t.Good text base) (ht : t.tasks = .run plan :: rest)
    (ht' : t' ∈ ((ofText text start).enter height t rest plan).threads)
    (hlive : ∀ height, .refute height ∉ t'.tasks) : t'.Good text base := by
  have hready : plan.Proper base (inner rest) t.pos := h.ready ht
  have hrest : Along text base t.starts t.pos rest := h.onward ht
  have hopen : ∀ group, Task.run plan ≠ .close group := by simp
  have hstay : ∀ tasks, Along text base t.starts t.pos (tasks ++ rest) →
      (t.doing (tasks ++ rest)).Good text base := fun tasks halong =>
    h.goOn ht hopen tasks h.pos halong
  have hdone : (t.doing rest).Good text base := hstay [] hrest
  have hahead : ∀ {pos}, Text.isBoundary text pos → t.pos ≤ pos →
      (t.movedTo pos rest).Good text base := fun hpos hle =>
    h.goOn ht hopen [] hpos (hrest.mono hle)
  cases hready with
  | literal word =>
    obtain ⟨pos, hpos, rfl⟩ := mem_moveOrFail.1 ht'
    obtain ⟨hbound, hle⟩ := after?_eq_some h.pos hpos
    exact hahead hbound hle
  | any newline =>
    obtain ⟨pos, hpos, rfl⟩ := mem_moveOrFail.1 ht'
    obtain ⟨hbound, hle⟩ := pastAny?_eq_some h.pos hpos
    exact hahead hbound hle
  | look kind =>
    obtain ⟨-, rfl⟩ := mem_goIf.1 ht'
    exact hdone
  | delegate hfirst hindex program groups =>
    simp only [enter] at ht'
    split at ht'
    · rename_i m hm
      obtain rfl := List.mem_singleton.1 ht'
      obtain ⟨hcuts, hstart⟩ := matchAt?_eq_some hm
      exact h.recording ht hopen hcuts hstart hfirst hindex hrest groups
    · contradiction
  | sequence hparts =>
    obtain rfl := List.mem_singleton.1 ht'
    exact hstay _ (hrest.append_runs hparts)
  | @alternatives _ _ branches hbranches =>
    match branches with
    | [] => contradiction
    | [branch] =>
      obtain rfl := List.mem_singleton.1 ht'
      exact hstay [_] ⟨hbranches branch List.mem_cons_self, hrest⟩
    | branch :: other :: others =>
      obtain ⟨hbranch, hothers⟩ := List.forall_mem_cons.1 hbranches
      simp only [enter, Move.threads, List.mem_cons, List.not_mem_nil, or_false] at ht'
      rcases ht' with rfl | rfl
      · exact hstay [_] ⟨hbranch, hrest⟩
      · exact hstay [_] ⟨.alternatives hothers, hrest⟩
  | group hindex hwhole hsub =>
    obtain rfl := List.mem_singleton.1 ht'
    exact h.opening ht hopen hindex hwhole hsub hrest
  | optional greedy hsub =>
    rcases (Move.threads_ofRound _ _ _ _).1 ht' with rfl | rfl
    · exact hstay [_] ⟨hsub, hrest⟩
    · exact hdone
  | star greedy hsub =>
    rcases (Move.threads_ofRound _ _ _ _).1 ht' with rfl | rfl
    · exact hstay [_, _] ⟨hsub, .star greedy hsub, hrest⟩
    · exact hdone
  | counted least most greedy hsub =>
    obtain rfl := List.mem_singleton.1 ht'
    exact hstay [_] ⟨hsub, hrest⟩
  | guarded least greedy hsub =>
    obtain rfl := List.mem_singleton.1 ht'
    exact hstay [_] ⟨hsub, hrest⟩
  | lookAround hsub =>
    obtain rfl := List.mem_singleton.1 ht'
    exact hstay [_, _, _] ⟨trivial, hsub, h.pos, hrest⟩
  | refuted back sub =>
    simp only [enter, Move.threads, List.mem_cons, List.not_mem_nil, or_false] at ht'
    rcases ht' with rfl | rfl
    · exact absurd (by simp [Thread.doing]) (hlive height)
    · exact hdone
  | @atomic _ _ sub hsub =>
    obtain rfl := List.mem_singleton.1 ht'
    exact (hstay [.run sub, .seal] ⟨hsub, trivial, hrest⟩).marked _
  | @conditional _ _ test ifTrue ifFalse htest htrue hfalse =>
    simp only [enter, Move.threads, List.mem_cons, List.not_mem_nil, or_false] at ht'
    rcases ht' with rfl | rfl
    · exact (hstay [.run test, .seal, .run ifTrue] ⟨htest, trivial, htrue, hrest⟩).marked _
    · exact (hstay [.run ifFalse] ⟨hfalse, hrest⟩).marked _
  | reference group =>
    obtain ⟨pos, hpos, rfl⟩ := mem_moveOrFail.1 ht'
    simp only [Option.bind_eq_bind, Option.bind_eq_some_iff] at hpos
    obtain ⟨_, _, _, _, hafter⟩ := hpos
    obtain ⟨hbound, hle⟩ := after?_eq_some h.pos hafter
    exact hahead hbound hle
  | groupMatched group =>
    obtain ⟨-, rfl⟩ := mem_goIf.1 ht'
    exact hdone
  | keepOut hbase =>
    obtain rfl := List.mem_singleton.1 ht'
    exact h.keepingOut ht hopen hbase hrest
  | searchStart =>
    obtain ⟨-, rfl⟩ := mem_goIf.1 ht'
    exact hdone

theorem step_good {task : Task} (h : t.Good text base) (ht : t.tasks = task :: rest)
    (ht' : t' ∈ ((ofText text start).step height t rest task).threads)
    (hlive : ∀ height, .refute height ∉ t'.tasks) : t'.Good text base := by
  have hready := h.ready ht
  have honward := h.onward ht
  cases task with
  | run plan => exact enter_good h ht ht' hlive
  | goBack count =>
    obtain ⟨pos, hpos, rfl⟩ := mem_moveOrFail.1 ht'
    obtain ⟨hbound, hsame⟩ := back?_eq_some h.pos hpos
    apply h.goOn ht (by simp) [] hbound
    apply honward.mono
    simp only [Task.floor]
    split
    · rename_i h0
      exact Nat.le_of_eq (hsame h0).symm
    · exact Nat.zero_le pos
  | close group =>
    obtain rfl := List.mem_singleton.1 ht'
    exact h.closing ht
  | again count least most greedy sub =>
    have hdone : (t.doing rest).Good text base := h.goOn ht (by simp) [] h.pos honward
    have hmore : (t.doing (.run sub :: .again (count + 1) least most greedy sub :: rest)).Good
        text base :=
      h.goOn ht (by simp) [_, _] h.pos ⟨hready, hready, honward⟩
    simp only [step] at ht'
    split at ht'
    · obtain rfl := List.mem_singleton.1 ht'
      exact hdone
    · split at ht'
      · rcases (Move.threads_ofRound _ _ _ _).1 ht' with rfl | rfl
        · exact hmore
        · exact hdone
      · obtain rfl := List.mem_singleton.1 ht'
        exact hmore
  | guardedAgain count last least greedy sub =>
    have hdone : (t.doing rest).Good text base := h.goOn ht (by simp) [] h.pos honward
    have hmore : ∀ last, (t.doing (.run sub :: .guardedAgain (count + 1) last least greedy sub ::
        rest)).Good text base := fun last =>
      h.goOn ht (by simp) [_, _] h.pos ⟨hready, hready, honward⟩
    simp only [step] at ht'
    split at ht'
    · contradiction
    · split at ht'
      · rcases (Move.threads_ofRound _ _ _ _).1 ht' with rfl | rfl
        · exact hmore _
        · exact hdone
      · obtain rfl := List.mem_singleton.1 ht'
        exact hmore _
  | returnTo pos =>
    obtain rfl := List.mem_singleton.1 ht'
    exact h.goOn ht (by simp) [] hready honward
  | refute => contradiction
  | _ =>
    have hdone : (t.doing rest).Good text base := h.goOn ht (by simp) [] h.pos honward
    simp only [step] at ht'
    split at ht' <;> obtain rfl := List.mem_singleton.1 ht'
    · exact hdone
    · exact hdone.marked _

theorem step_sound {task : Task} (h : t.Sound text base) (ht : t.tasks = task :: rest) :
    ∀ t' ∈ ((ofText text start).step height t rest task).threads, t'.Sound text base := by
  intro t' ht'
  by_cases hlive : ∀ height, .refute height ∉ t'.tasks
  · right
    rcases h with ⟨k, hk⟩ | hgood
    · exfalso
      rw [ht] at hk
      rcases List.mem_cons.1 hk with rfl | hk
      · contradiction
      · rcases step_keeps ht' with hsubset | ⟨k', hk'⟩
        · exact hlive k (hsubset hk)
        · exact hlive k' hk'
    · exact step_good hgood ht ht' hlive
  · left
    simpa using hlive

def retry (s : Subject) (fuel backtracks : Nat) :
    List Thread → Nat → Except RunError (Option Thread)
  | [], _ => .ok none
  | last :: kept, height =>
    if backtracks < backtrackLimit then s.run fuel (backtracks + 1) kept (height - 1) last
    else .error .backtrackLimit

/-- What a run ends with has nothing left to do, and is sound if what it was begun with was. -/
theorem run_sound {fuel backtracks height : Nat} {kept : List Thread} {t last : Thread}
    (h : t.Sound text base) (hkept : ∀ k ∈ kept, k.Sound text base)
    (hrun : (ofText text start).run fuel backtracks kept height t = .ok (some last)) :
    last.Sound text base ∧ last.tasks = [] := by
  induction fuel generalizing backtracks kept height t with
  | zero => simp [run] at hrun
  | succ fuel ih =>
    have hretry : ∀ (kept : List Thread) (height : Nat), (∀ k ∈ kept, k.Sound text base) →
        (ofText text start).retry fuel backtracks kept height = .ok (some last) →
        last.Sound text base ∧ last.tasks = [] := by
      intro kept height hkept hrun
      cases kept with
      | nil => simp [retry] at hrun
      | cons k kept =>
        obtain ⟨hk, hkept⟩ := List.forall_mem_cons.1 hkept
        rw [retry] at hrun
        split at hrun
        · exact ih hk hkept hrun
        · contradiction
    have hdrop : ∀ n, ∀ k ∈ kept.drop n, k.Sound text base := fun n k hk =>
      hkept k (List.mem_of_mem_drop hk)
    rw [run] at hrun
    cases htasks : t.tasks with
    | nil =>
      rw [htasks] at hrun
      obtain rfl : t = last := by simpa using hrun
      exact ⟨h, htasks⟩
    | cons task rest =>
      have hstep : ∀ next ∈ ((ofText text start).step height t rest task).threads,
          next.Sound text base := step_sound h htasks
      rw [htasks] at hrun
      simp only at hrun
      generalize (ofText text start).step height t rest task = move at hstep hrun
      cases move with
      | fail =>
        apply hretry kept height hkept
        cases kept <;> exact hrun
      | refute n =>
        have hdropped := hdrop (height - n)
        simp only at hrun
        generalize kept.drop (height - n) = dropped at hdropped hrun
        apply hretry dropped (min height n) hdropped
        cases dropped <;> exact hrun
      | go next => exact ih (hstep next List.mem_cons_self) hkept hrun
      | cut n next => exact ih (hstep next List.mem_cons_self) (hdrop _) hrun
      | fork first second =>
        obtain ⟨hfirst, hsecond⟩ := List.forall_mem_cons.1 hstep
        simp only at hrun
        split at hrun
        · exact ih hfirst (List.forall_mem_cons.2 ⟨hsecond second List.mem_cons_self, hkept⟩) hrun
        · contradiction

end Subject

namespace Machine

variable {m : Machine} {text : List Char} {start base : Nat}

theorem found_cuts {t : Thread} {found : Match} (h : t.Good text base) (ht : t.tasks = [])
    (hfound : m.found t = some found) :
    found.Cuts text m.groups ∧ base ≤ found.span.start := by
  simp only [Machine.found, Option.bind_eq_bind, Option.bind_eq_some_iff, Option.pure_def,
    Option.some.injEq] at hfound
  obtain ⟨a, ha, b, hb, rfl⟩ := hfound
  have hspan : (⟨min a b, b⟩ : Span).Cuts text := by
    refine ⟨Nat.min_le_right a b, ?_, h.slots 1 b hb⟩
    rcases Nat.le_total a b with hle | hle
    · rw [Nat.min_eq_left hle]
      exact h.slots 0 a ha
    · rw [Nat.min_eq_right hle]
      exact h.slots 1 b hb
  refine ⟨⟨hspan, ?_, by simp⟩, Nat.le_min.2 ⟨h.wholeStart a ha, h.wholeStop b hb⟩⟩
  intro g hg
  obtain ⟨i, -, hi⟩ := List.mem_map.1 hg
  simp only [Option.bind_eq_some_iff, Option.some.injEq] at hi
  obtain ⟨c, hc, d, hd, rfl⟩ := hi
  have hordered : t.Ordered (i + 1) :=
    (h.groups (i + 1) (Nat.succ_ne_zero i)).resolve_right (by simp [ht])
  exact ⟨hordered c d hc hd, h.slots _ c hc, h.slots _ d hd⟩

theorem first_good (hplan : m.plan.Proper base 1 start) (hbase : base ≤ start)
    (hstart : Text.isBoundary text start) :
    (⟨[.run m.searching], start, .replicate (2 * (m.groups + 1)) none, []⟩ : Thread).Good text
      base := by
  have hnone : ∀ slot n, (⟨[.run m.searching], start, .replicate (2 * (m.groups + 1)) none, []⟩ :
      Thread).slot? slot ≠ some n := by
    intro slot n hn
    simp only [Thread.slot?, Array.getElem?_replicate] at hn
    split at hn <;> simp at hn
  have hsearching : m.searching.Proper base 0 start := by
    apply Plan.Proper.sequence
    simp only [List.mem_cons, List.not_mem_nil, or_false, forall_eq_or_imp, forall_eq]
    exact ⟨.star false (.any true), .group (Nat.le_refl 0) (fun _ => hbase) hplan⟩
  exact ⟨hstart, fun slot n hn => absurd hn (hnone slot n), ⟨hsearching, trivial⟩,
    fun group _ => .inl fun a _ ha => absurd ha (hnone _ a),
    fun n hn => absurd hn (hnone 0 n), fun n hn => absurd hn (hnone 1 n)⟩

/-- A match that a machine finds lies between characters and does not run backwards. It starts no
earlier than `base` if the plan sees to that. -/
theorem search_cuts {found : Match} (hplan : m.plan.Proper base 1 start)
    (hbase : base ≤ start) (hstart : Text.isBoundary text start)
    (hfound : m.search text start = .ok (some found)) :
    found.Cuts text m.groups ∧ base ≤ found.span.start := by
  obtain ⟨last, hrun, hlast⟩ := bind_eq_ok.1 hfound
  obtain ⟨t, rfl, ht⟩ := Option.bind_eq_some_iff.1 (Except.ok.inj hlast)
  have hfirst := first_good (m := m) hplan hbase hstart
  obtain ⟨hsound, htasks⟩ := Subject.run_sound (.inr hfirst) (by simp) hrun
  have hgood : t.Good text base := hsound.resolve_left (by simp [htasks])
  exact found_cuts hgood htasks ht

end Machine

end Backtrack

end RegexGateway
