import RegexGateway.Proofs.Backtrack.Subject

namespace RegexGateway

namespace Backtrack

namespace Thread

@[simp] theorem slot?_doing (t : Thread) (tasks : List Task) (slot : Nat) :
    (t.doing tasks).slot? slot = t.slot? slot := rfl

@[simp] theorem slot?_movedTo (t : Thread) (pos : Nat) (tasks : List Task) (slot : Nat) :
    (t.movedTo pos tasks).slot? slot = t.slot? slot := rfl

theorem slot?_setSlot_of_ne (t : Thread) {slot slot' : Nat} (value : Option Nat)
    (h : slot ≠ slot') : (t.setSlot slot value).slot? slot' = t.slot? slot' := by
  simp only [slot?, setSlot, Array.getElem?_setIfInBounds_ne h]

theorem slot?_setSlot_self {t : Thread} {slot n : Nat} {value : Option Nat}
    (h : (t.setSlot slot value).slot? slot = some n) : value = some n := by
  simp only [slot?, setSlot, Array.getElem?_setIfInBounds_self] at h
  split at h
  · simpa using h
  · simp at h

theorem slot?_setSlot {t : Thread} {slot slot' n : Nat} {value : Option Nat}
    (h : (t.setSlot slot value).slot? slot' = some n) :
    value = some n ∨ t.slot? slot' = some n := by
  by_cases hslot : slot = slot'
  · subst hslot
    exact .inl (slot?_setSlot_self h)
  · exact .inr (t.slot?_setSlot_of_ne value hslot ▸ h)

/-- A group that does not stop before it starts. -/
def Ordered (t : Thread) (group : Nat) : Prop :=
  ∀ a b, t.slot? (2 * group) = some a → t.slot? (2 * group + 1) = some b → a ≤ b

theorem Ordered.congr {t t' : Thread} {group : Nat} (h : t.Ordered group)
    (hstart : t'.slot? (2 * group) = t.slot? (2 * group))
    (hstop : t'.slot? (2 * group + 1) = t.slot? (2 * group + 1)) : t'.Ordered group := by
  intro a b ha hb
  exact h a b (hstart ▸ ha) (hstop ▸ hb)

theorem Ordered.setSlot {t : Thread} {group slot : Nat} {value : Option Nat} (h : t.Ordered group)
    (hstart : slot ≠ 2 * group) (hstop : slot ≠ 2 * group + 1) :
    (t.setSlot slot value).Ordered group :=
  h.congr (t.slot?_setSlot_of_ne value hstart) (t.slot?_setSlot_of_ne value hstop)

def setSpan (t : Thread) (group : Nat) (span : Option Span) : Thread :=
  (t.setSlot (2 * group) (span.map Span.start)).setSlot (2 * group + 1) (span.map Span.stop)

theorem recording_eq (t : Thread) (first groups : Nat) (m : Match) :
    t.recording first groups m =
      (List.range groups).foldl (fun t i => t.setSpan (first + i) (m.groups[i]?).join) t := rfl

theorem setSpan_slot?_of_lt (t : Thread) {group slot : Nat} (span : Option Span)
    (h : slot < 2 * group) : (t.setSpan group span).slot? slot = t.slot? slot := by
  rw [setSpan, slot?_setSlot_of_ne _ _ (by omega), slot?_setSlot_of_ne _ _ (by omega)]

theorem setSpan_slot? {t : Thread} {group slot n : Nat} {span : Option Span}
    (h : (t.setSpan group span).slot? slot = some n) :
    t.slot? slot = some n ∨ ∃ g ∈ span, n = g.start ∨ n = g.stop := by
  rcases slot?_setSlot h with hstop | h
  · obtain ⟨g, hg, rfl⟩ := Option.map_eq_some_iff.1 hstop
    exact .inr ⟨g, hg, .inr rfl⟩
  · rcases slot?_setSlot h with hstart | h
    · obtain ⟨g, hg, rfl⟩ := Option.map_eq_some_iff.1 hstart
      exact .inr ⟨g, hg, .inl rfl⟩
    · exact .inl h

theorem Ordered.setSpan {t : Thread} {group group' : Nat} {span : Option Span}
    (h : t.Ordered group') (hspan : ∀ g ∈ span, g.start ≤ g.stop) :
    (t.setSpan group span).Ordered group' := by
  by_cases hgroup : group = group'
  · subst hgroup
    intro a b ha hb
    rw [Thread.setSpan, slot?_setSlot_of_ne _ _ (by omega)] at ha
    obtain ⟨g, hg, rfl⟩ := Option.map_eq_some_iff.1 (slot?_setSlot_self ha)
    obtain ⟨g', hg', rfl⟩ := Option.map_eq_some_iff.1 (slot?_setSlot_self hb)
    obtain rfl : g = g' := Option.some.inj (hg.symm.trans hg')
    exact hspan g hg
  · apply h.congr <;>
      rw [Thread.setSpan, slot?_setSlot_of_ne _ _ (by omega), slot?_setSlot_of_ne _ _ (by omega)]

/-- A thread after a match of a program whose groups are numbered from `first` on. -/
structure Records (t t' : Thread) (first : Nat) (text : List Char) : Prop where
  before : ∀ slot < 2 * first, t'.slot? slot = t.slot? slot
  boundary : ∀ slot n, t'.slot? slot = some n → t.slot? slot = some n ∨ Text.isBoundary text n
  ordered : ∀ group, t.Ordered group → t'.Ordered group

theorem recording_records (t : Thread) (first groups : Nat) {m : Match} {text : List Char}
    (hm : ∀ g, some g ∈ m.groups → g.Cuts text) :
    t.Records (t.recording first groups m) first text := by
  rw [recording_eq]
  apply List.foldlRecOn (motive := fun t' => t.Records t' first text)
  · exact ⟨fun _ _ => rfl, fun _ _ h => .inl h, fun _ h => h⟩
  · intro t' ht' i _
    have hspan : ∀ g ∈ (m.groups[i]?).join, g.Cuts text := by
      intro g hg
      exact hm g (List.mem_of_getElem? (Option.join_eq_some_iff.1 hg))
    constructor
    case before =>
      intro slot hslot
      rw [setSpan_slot?_of_lt _ _ (by omega), ht'.before slot hslot]
    case boundary =>
      intro slot n h
      rcases setSpan_slot? h with h | ⟨g, hg, rfl | rfl⟩
      · exact ht'.boundary slot n h
      · exact .inr (hspan g hg).start_boundary
      · exact .inr (hspan g hg).stop_boundary
    case ordered =>
      intro group h
      exact (ht'.ordered group h).setSpan fun g hg => (hspan g hg).start_le_stop

end Thread

end Backtrack

end RegexGateway
