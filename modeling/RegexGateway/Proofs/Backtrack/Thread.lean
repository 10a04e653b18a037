import RegexGateway.Proofs.Backtrack.Plan
import RegexGateway.Proofs.Backtrack.Slots

namespace RegexGateway

namespace Backtrack

/-- The number from which on groups may be begun before the tasks: those that the tasks end were
begun earlier, the last one first. -/
def inner : List Task → Nat
  | [] => 0
  | .close group :: _ => group + 1
  | _ :: rest => inner rest

namespace Task

/-- How far back a thread may stand after a task that it came to at `low`. -/
def floor (low : Nat) : Task → Nat
  | .goBack count => if count = 0 then low else 0
  | .returnTo pos => pos
  | _ => low

/-- What a task asks of a thread that comes to it at `low` or behind, where groups may be begun from
`first` on. The whole match does not stop before `base`, and no other group before it starts. -/
def Ready (text : List Char) (base : Nat) (starts : Nat → Option Nat) (first low : Nat) :
    Task → Prop
  | .run plan => plan.Proper base first low
  | .again _ _ _ _ sub | .guardedAgain _ _ _ _ sub => sub.Proper base first low
  | .close group => first ≤ group ∧ (group = 0 → base ≤ low) ∧
      (group ≠ 0 → ∀ n, starts group = some n → n ≤ low)
  | .returnTo pos => Text.isBoundary text pos
  | .goBack _ | .refute _ | .seal => True

end Task

/-- Tasks that a thread may do one after the other from `low` on. -/
def Along (text : List Char) (base : Nat) (starts : Nat → Option Nat) : Nat → List Task → Prop
  | _, [] => True
  | low, task :: rest =>
    task.Ready text base starts (inner rest) low ∧ Along text base starts (task.floor low) rest

section

variable {text : List Char} {base : Nat} {starts starts' : Nat → Option Nat} {low low' : Nat}
  {tasks : List Task}

theorem Task.Ready.mono {task : Task} {first : Nat} (h : task.Ready text base starts first low)
    (hlow : low ≤ low') : task.Ready text base starts first low' := by
  cases task with
  | run | again | guardedAgain => exact Plan.Proper.mono h (Nat.le_refl first) hlow
  | close group =>
    obtain ⟨hfirst, hwhole, hstart⟩ := h
    exact ⟨hfirst, fun h0 => Nat.le_trans (hwhole h0) hlow,
      fun h0 n hn => Nat.le_trans (hstart h0 n hn) hlow⟩
  | _ => exact h

theorem Task.floor_mono (task : Task) (hlow : low ≤ low') : task.floor low ≤ task.floor low' := by
  cases task with
  | goBack count =>
    simp only [floor]
    split
    · exact hlow
    · exact Nat.le_refl 0
  | returnTo pos => exact Nat.le_refl pos
  | _ => exact hlow

theorem Along.mono (h : Along text base starts low tasks) (hlow : low ≤ low') :
    Along text base starts low' tasks := by
  induction tasks generalizing low low' with
  | nil => trivial
  | cons task rest ih => exact ⟨h.1.mono hlow, ih h.2 (task.floor_mono hlow)⟩

theorem Along.congr (h : Along text base starts low tasks)
    (hstarts : ∀ group, group ≠ 0 → group < inner tasks → starts' group = starts group) :
    Along text base starts' low tasks := by
  induction tasks generalizing low with
  | nil => trivial
  | cons task rest ih =>
    obtain ⟨hready, hrest⟩ := h
    cases task with
    | close group =>
      obtain ⟨hfirst, hwhole, hstart⟩ := hready
      refine ⟨⟨hfirst, hwhole, ?_⟩, ih hrest ?_⟩
      · intro h0
        rw [hstarts group h0 (Nat.lt_succ_self group)]
        exact hstart h0
      · intro g h0 hg
        exact hstarts g h0 (by simp only [inner]; omega)
    | _ => exact ⟨hready, ih hrest hstarts⟩

theorem inner_append_runs (parts : List Plan) (rest : List Task) :
    inner (parts.map Task.run ++ rest) = inner rest := by
  induction parts with
  | nil => rfl
  | cons p parts ih => exact ih

theorem Along.append_runs {parts : List Plan} {rest : List Task}
    (hparts : ∀ p ∈ parts, p.Proper base (inner rest) low) (h : Along text base starts low rest) :
    Along text base starts low (parts.map Task.run ++ rest) := by
  induction parts with
  | nil => exact h
  | cons p parts ih =>
    obtain ⟨hp, hparts⟩ := List.forall_mem_cons.1 hparts
    have hrun : p.Proper base (inner (parts.map Task.run ++ rest)) low := by
      rwa [inner_append_runs]
    exact ⟨hrun, ih hparts⟩

end

namespace Thread

def starts (t : Thread) (group : Nat) : Option Nat := t.slot? (2 * group)

/-- A thread that stands between characters, and will end no group before it starts, nor the whole
match before `base`. -/
structure Good (t : Thread) (text : List Char) (base : Nat) : Prop where
  pos : Text.isBoundary text t.pos
  slots : ∀ slot n, t.slot? slot = some n → Text.isBoundary text n
  along : Along text base t.starts t.pos t.tasks
  groups : ∀ group, group ≠ 0 → t.Ordered group ∨ .close group ∈ t.tasks
  wholeStart : ∀ n, t.slot? 0 = some n → base ≤ n
  wholeStop : ∀ n, t.slot? 1 = some n → base ≤ n

variable {t t' : Thread} {text : List Char} {base : Nat} {rest tasks : List Task}

theorem Good.movedTo (h : t.Good text base) {pos : Nat} (hpos : Text.isBoundary text pos)
    (halong : Along text base t.starts pos tasks)
    (hgroups : ∀ group, .close group ∈ t.tasks → .close group ∈ tasks) :
    (t.movedTo pos tasks).Good text base where
  pos := hpos
  slots := h.slots
  along := halong
  groups group h0 := (h.groups group h0).imp_right (hgroups group)
  wholeStart := h.wholeStart
  wholeStop := h.wholeStop

/-- A thread that will come to nothing, or a good one. -/
def Sound (t : Thread) (text : List Char) (base : Nat) : Prop :=
  (∃ height, .refute height ∈ t.tasks) ∨ t.Good text base

variable {task : Task}

theorem Good.ready (h : t.Good text base) (ht : t.tasks = task :: rest) :
    task.Ready text base t.starts (inner rest) t.pos :=
  (ht ▸ h.along).1

theorem Good.onward (h : t.Good text base) (ht : t.tasks = task :: rest) :
    Along text base t.starts (task.floor t.pos) rest :=
  (ht ▸ h.along).2

theorem close_mem_rest (ht : t.tasks = task :: rest) (htask : ∀ group, task ≠ .close group)
    {group : Nat} (hgroup : .close group ∈ t.tasks) : .close group ∈ rest := by
  rw [ht] at hgroup
  exact (List.mem_cons.1 hgroup).resolve_left fun heq => htask group heq.symm

theorem Good.goOn (h : t.Good text base) (ht : t.tasks = task :: rest)
    (htask : ∀ group, task ≠ .close group) (tasks : List Task) {pos : Nat}
    (hpos : Text.isBoundary text pos)
    (halong : Along text base t.starts pos (tasks ++ rest)) :
    (t.movedTo pos (tasks ++ rest)).Good text base := by
  apply h.movedTo hpos halong
  intro group hgroup
  exact List.mem_append_right tasks (close_mem_rest ht htask hgroup)

theorem Good.marked (h : t.Good text base) (marks : List Nat) :
    ({ t with marks } : Thread).Good text base :=
  ⟨h.pos, h.slots, h.along, h.groups, h.wholeStart, h.wholeStop⟩

theorem Good.recording (h : t.Good text base) (ht : t.tasks = task :: rest)
    (htask : ∀ group, task ≠ .close group) {first count : Nat} {m : Match}
    (hm : m.Cuts text count) (hstart : t.pos = m.span.start) (hfirst : inner rest ≤ first)
    (hwhole : first ≠ 0) (hrest : Along text base t.starts t.pos rest) (groups : Nat) :
    ((t.recording first groups m).movedTo m.span.stop rest).Good text base := by
  have hrecords := t.recording_records first groups hm.groups
  have hle : t.pos ≤ m.span.stop := hstart ▸ hm.span.start_le_stop
  constructor
  case pos => exact hm.span.stop_boundary
  case slots =>
    intro slot n hn
    exact (hrecords.boundary slot n hn).elim (h.slots slot n) id
  case along =>
    apply (hrest.mono hle).congr
    intro group _ hgroup
    exact hrecords.before (2 * group) (by omega)
  case groups =>
    intro group h0
    exact (h.groups group h0).imp (hrecords.ordered group) (close_mem_rest ht htask)
  case wholeStart =>
    intro n hn
    exact h.wholeStart n ((hrecords.before 0 (by omega)).symm.trans hn)
  case wholeStop =>
    intro n hn
    exact h.wholeStop n ((hrecords.before 1 (by omega)).symm.trans hn)

theorem Good.setSlot (h : t.Good text base) {slot : Nat}
    (hwhole : slot ≤ 1 → base ≤ t.pos)
    (halong : Along text base (t.setSlot slot t.pos).starts t.pos tasks)
    (hgroups : ∀ group, group ≠ 0 →
      (t.setSlot slot t.pos).Ordered group ∨ .close group ∈ tasks) :
    ((t.setSlot slot t.pos).doing tasks).Good text base := by
  have hhere : ∀ slot' n, (t.setSlot slot t.pos).slot? slot' = some n →
      n = t.pos ∧ slot = slot' ∨ t.slot? slot' = some n := by
    intro slot' n hn
    by_cases heq : slot = slot'
    · subst heq
      exact .inl ⟨(Option.some.inj (slot?_setSlot_self hn)).symm, rfl⟩
    · exact .inr (t.slot?_setSlot_of_ne _ heq ▸ hn)
  constructor
  case pos => exact h.pos
  case slots =>
    intro slot' n hn
    rcases hhere slot' n hn with ⟨rfl, -⟩ | hn
    · exact h.pos
    · exact h.slots slot' n hn
  case along => exact halong
  case groups => exact hgroups
  case wholeStart =>
    intro n hn
    rcases hhere 0 n hn with ⟨rfl, rfl⟩ | hn
    · exact hwhole (by omega)
    · exact h.wholeStart n hn
  case wholeStop =>
    intro n hn
    rcases hhere 1 n hn with ⟨rfl, rfl⟩ | hn
    · exact hwhole (by omega)
    · exact h.wholeStop n hn

theorem Good.ordered_setSlot (h : t.Good text base) {slot group : Nat} (value : Option Nat)
    (h0 : group ≠ 0) (hstart : slot ≠ 2 * group) (hstop : slot ≠ 2 * group + 1) :
    (t.setSlot slot value).Ordered group ∨ .close group ∈ t.tasks :=
  (h.groups group h0).imp_left fun hordered => hordered.setSlot hstart hstop

theorem Good.opening (h : t.Good text base) (ht : t.tasks = task :: rest)
    (htask : ∀ group, task ≠ .close group) {index : Nat} {sub : Plan}
    (hindex : inner rest ≤ index) (hwhole : index = 0 → base ≤ t.pos)
    (hsub : sub.Proper base (index + 1) t.pos) (hrest : Along text base t.starts t.pos rest) :
    ((t.setSlot (2 * index) t.pos).doing (.run sub :: .close index :: rest)).Good text base := by
  apply h.setSlot
  case hwhole => exact fun hslot => hwhole (by omega)
  case halong =>
    have hstart : ∀ n, (t.setSlot (2 * index) t.pos).starts index = some n → n ≤ t.pos := by
      intro n hn
      exact Nat.le_of_eq (Option.some.inj (slot?_setSlot_self hn)).symm
    refine ⟨hsub, ⟨hindex, hwhole, fun _ => hstart⟩, hrest.congr ?_⟩
    intro group _ hgroup
    exact t.slot?_setSlot_of_ne _ (by omega)
  case hgroups =>
    intro group h0
    by_cases hgroup : group = index
    · exact .inr (by simp [hgroup])
    · apply (h.ordered_setSlot _ h0 (by omega) (by omega)).imp_right
      intro hclose
      simp [close_mem_rest ht htask hclose]

theorem Good.closing (h : t.Good text base) {index : Nat} (ht : t.tasks = .close index :: rest) :
    ((t.setSlot (2 * index + 1) t.pos).doing rest).Good text base := by
  obtain ⟨-, hwhole, hstart⟩ := h.ready ht
  have hrest : Along text base t.starts t.pos rest := h.onward ht
  apply h.setSlot
  case hwhole => exact fun hslot => hwhole (by omega)
  case halong =>
    apply hrest.congr
    intro group _ _
    exact t.slot?_setSlot_of_ne _ (by omega)
  case hgroups =>
    intro group h0
    by_cases hgroup : group = index
    · subst hgroup
      left
      intro a b ha hb
      obtain rfl := Option.some.inj (slot?_setSlot_self hb)
      rw [slot?_setSlot_of_ne _ _ (by omega)] at ha
      exact hstart h0 a ha
    · apply (h.ordered_setSlot _ h0 (by omega) (by omega)).imp_right
      intro hclose
      rw [ht] at hclose
      exact (List.mem_cons.1 hclose).resolve_left (by simpa using hgroup)

theorem Good.keepingOut (h : t.Good text base) (ht : t.tasks = task :: rest)
    (htask : ∀ group, task ≠ .close group) (hbase : base ≤ t.pos)
    (hrest : Along text base t.starts t.pos rest) :
    ((t.setSlot 0 t.pos).doing rest).Good text base := by
  apply h.setSlot
  case hwhole => exact fun _ => hbase
  case halong =>
    apply hrest.congr
    intro group h0 _
    exact t.slot?_setSlot_of_ne _ (by omega)
  case hgroups =>
    intro group h0
    apply (h.ordered_setSlot _ h0 (by omega) (by omega)).imp_right
    exact close_mem_rest ht htask

end Thread

end Backtrack

end RegexGateway
