import RegexGateway.Backtrack.Plan
import RegexGateway.Proofs.Except

namespace RegexGateway

namespace Backtrack

namespace Expr

mutual

/-- Whether a match may be told to start anew. In a look-around that asks for no match it is not,
since nothing is left of what was tried there. -/
def keeps : Expr → Bool
  | keepOut => true
  | concat parts | alternation parts => anyKeeps parts
  | group sub | repetition _ _ _ sub | atomic sub => sub.keeps
  | lookAround kind sub => !kind.negative && sub.keeps
  | conditional test ifTrue ifFalse => test.keeps || ifTrue.keeps || ifFalse.keeps
  | _ => false

def anyKeeps : List Expr → Bool
  | [] => false
  | e :: rest => e.keeps || anyKeeps rest

end

mutual

/-- Whether a match may be told to start anew while the search looks behind. -/
def keepsBehind : Expr → Bool
  | concat parts | alternation parts => anyKeepsBehind parts
  | group sub | repetition _ _ _ sub | atomic sub => sub.keepsBehind
  | lookAround kind sub => !kind.negative && (sub.keepsBehind || kind.behind && sub.keeps)
  | conditional test ifTrue ifFalse =>
    test.keepsBehind || ifTrue.keepsBehind || ifFalse.keepsBehind
  | _ => false

def anyKeepsBehind : List Expr → Bool
  | [] => false
  | e :: rest => e.keepsBehind || anyKeepsBehind rest

end

/-- An expression that starts no match before `base` if it runs from `low` on. -/
structure Settles (base low : Nat) (e : Expr) : Prop where
  keeps : e.keeps → base ≤ low
  behind : e.keepsBehind → base = 0

structure AllSettle (base low : Nat) (parts : List Expr) : Prop where
  keeps : anyKeeps parts → base ≤ low
  behind : anyKeepsBehind parts → base = 0

variable {base low : Nat}

theorem AllSettle.head {e : Expr} {rest : List Expr} (h : AllSettle base low (e :: rest)) :
    e.Settles base low :=
  ⟨fun he => h.keeps (by simp [anyKeeps, he]), fun he => h.behind (by simp [anyKeepsBehind, he])⟩

theorem AllSettle.tail {e : Expr} {rest : List Expr} (h : AllSettle base low (e :: rest)) :
    AllSettle base low rest :=
  ⟨fun he => h.keeps (by simp [anyKeeps, he]), fun he => h.behind (by simp [anyKeepsBehind, he])⟩

theorem Settles.inside {kind : LookAround} {sub : Expr} {back : Nat}
    (h : (lookAround kind sub).Settles base low) (hkind : kind.negative = false)
    (hback : back ≠ 0 → kind.behind) : sub.Settles base (if back = 0 then low else 0) where
  keeps := by
    intro hkeeps
    split
    · exact h.keeps (by simp [Expr.keeps, hkind, hkeeps])
    · rename_i hpos
      exact Nat.le_of_eq (h.behind (by simp [keepsBehind, hkind, hkeeps, hback hpos]))
  behind hbehind := h.behind (by simp [keepsBehind, hkind, hbehind])

theorem Settles.looks {kind : LookAround} {e : Expr} {rest : List Expr}
    (h : (lookAround kind (.alternation (e :: rest))).Settles base low) :
    (lookAround kind e).Settles base low ∧
      (lookAround kind (.alternation rest)).Settles base low := by
  obtain ⟨hkeeps, hbehind⟩ := h
  simp only [Expr.keeps, anyKeeps, keepsBehind, anyKeepsBehind, Bool.and_eq_true,
    Bool.or_eq_true] at hkeeps hbehind
  constructor <;> constructor <;>
    simp only [Expr.keeps, keepsBehind, Bool.and_eq_true, Bool.or_eq_true] <;> grind

theorem Settles.conditional {test ifTrue ifFalse : Expr}
    (h : (Expr.conditional test ifTrue ifFalse).Settles base low) :
    test.Settles base low ∧ ifTrue.Settles base low ∧ ifFalse.Settles base low := by
  obtain ⟨hkeeps, hbehind⟩ := h
  simp only [Expr.keeps, keepsBehind, Bool.or_eq_true] at hkeeps hbehind
  exact ⟨⟨fun ht => hkeeps (.inl (.inl ht)), fun ht => hbehind (.inl (.inl ht))⟩,
    ⟨fun ht => hkeeps (.inl (.inr ht)), fun ht => hbehind (.inl (.inr ht))⟩,
    ⟨fun hf => hkeeps (.inr hf), fun hf => hbehind (.inr hf)⟩⟩

end Expr

/-- A plan whose groups are numbered from `first` on, each before those inside of it. If it runs
from `low` on, it starts no match before `base`. A look-around that asks for no match leaves
nothing, so nothing is asked of it. -/
inductive Plan.Proper (base : Nat) : Nat → Nat → Plan → Prop where
  | literal {first low : Nat} (text : List Char) : Proper base first low (.literal text)
  | any {first low : Nat} (newline : Bool) : Proper base first low (.any newline)
  | look {first low : Nat} (kind : Regex.Look) : Proper base first low (.look kind)
  | delegate {first low index : Nat} (hfirst : first ≤ index) (hindex : index ≠ 0)
      (program : Regex.Program) (groups : Nat) :
      Proper base first low (.delegate program index groups)
  | sequence {first low : Nat} {parts : List Plan} (h : ∀ p ∈ parts, Proper base first low p) :
      Proper base first low (.sequence parts)
  | alternatives {first low : Nat} {branches : List Plan}
      (h : ∀ p ∈ branches, Proper base first low p) : Proper base first low (.alternatives branches)
  | group {first low index : Nat} {sub : Plan} (hfirst : first ≤ index)
      (hwhole : index = 0 → base ≤ low) (h : Proper base (index + 1) low sub) :
      Proper base first low (.group index sub)
  | optional {first low : Nat} (greedy : Bool) {sub : Plan} (h : Proper base first low sub) :
      Proper base first low (.optional greedy sub)
  | star {first low : Nat} (greedy : Bool) {sub : Plan} (h : Proper base first low sub) :
      Proper base first low (.star greedy sub)
  | counted {first low : Nat} (least : Nat) (most : Option Nat) (greedy : Bool) {sub : Plan}
      (h : Proper base first low sub) : Proper base first low (.counted least most greedy sub)
  | guarded {first low : Nat} (least : Nat) (greedy : Bool) {sub : Plan}
      (h : Proper base first low sub) : Proper base first low (.guarded least greedy sub)
  | lookAround {first low back : Nat} {sub : Plan}
      (h : Proper base first (if back = 0 then low else 0) sub) :
      Proper base first low (.lookAround false back sub)
  | refuted {first low : Nat} (back : Nat) (sub : Plan) :
      Proper base first low (.lookAround true back sub)
  | atomic {first low : Nat} {sub : Plan} (h : Proper base first low sub) :
      Proper base first low (.atomic sub)
  | conditional {first low : Nat} {test ifTrue ifFalse : Plan} (htest : Proper base first low test)
      (htrue : Proper base first low ifTrue) (hfalse : Proper base first low ifFalse) :
      Proper base first low (.conditional test ifTrue ifFalse)
  | reference {first low : Nat} (group : Nat) : Proper base first low (.reference group)
  | groupMatched {first low : Nat} (group : Nat) : Proper base first low (.groupMatched group)
  | keepOut {first low : Nat} (h : base ≤ low) : Proper base first low .keepOut
  | searchStart {first low : Nat} : Proper base first low .searchStart

namespace Plan

variable {base : Nat}

theorem Proper.mono {first first' low low' : Nat} {p : Plan} (h : p.Proper base first low)
    (hfirst : first' ≤ first) (hlow : low ≤ low') : p.Proper base first' low' := by
  induction h generalizing first' low' with
  | literal text => exact .literal text
  | any newline => exact .any newline
  | look kind => exact .look kind
  | delegate hbegin hindex program groups =>
    exact .delegate (Nat.le_trans hfirst hbegin) hindex program groups
  | sequence h ih => exact .sequence fun p hp => ih p hp hfirst hlow
  | alternatives h ih => exact .alternatives fun p hp => ih p hp hfirst hlow
  | group hindex hwhole h ih =>
    exact .group (Nat.le_trans hfirst hindex) (fun h0 => Nat.le_trans (hwhole h0) hlow)
      (ih (Nat.le_refl _) hlow)
  | optional greedy h ih => exact .optional greedy (ih hfirst hlow)
  | star greedy h ih => exact .star greedy (ih hfirst hlow)
  | counted least most greedy h ih => exact .counted least most greedy (ih hfirst hlow)
  | guarded least greedy h ih => exact .guarded least greedy (ih hfirst hlow)
  | lookAround h ih =>
    apply Proper.lookAround
    apply ih hfirst
    split
    · exact hlow
    · exact Nat.le_refl 0
  | refuted back sub => exact .refuted back sub
  | atomic h ih => exact .atomic (ih hfirst hlow)
  | conditional htest htrue hfalse ihtest ihtrue ihfalse =>
    exact .conditional (ihtest hfirst hlow) (ihtrue hfirst hlow) (ihfalse hfirst hlow)
  | reference group => exact .reference group
  | groupMatched group => exact .groupMatched group
  | keepOut h => exact .keepOut (Nat.le_trans h hlow)
  | searchStart => exact .searchStart

theorem ofEasy_proper {first low : Nat} {parts : List Expr} {plans : List Plan}
    (h : ofEasy first parts = .ok plans) (hfirst : 1 ≤ first) :
    ∀ p ∈ plans, p.Proper base first low := by
  unfold ofEasy at h
  split at h
  · obtain rfl := Except.ok.inj h
    simp
  · split at h
    · rename_i text _
      obtain rfl := Except.ok.inj h
      simpa using .literal text
    · split at h
      · rename_i program _
        obtain rfl := Except.ok.inj h
        simpa using .delegate (Nat.le_refl first) (by omega) program _
      · contradiction
      · contradiction

theorem repeated_proper {first low least : Nat} {most : Option Nat} {greedy mayBeEmpty : Bool}
    {sub : Plan} (h : sub.Proper base first low) :
    (repeated least most greedy mayBeEmpty sub).Proper base first low := by
  unfold repeated
  split
  · split
    · exact .optional greedy h
    · exact .counted least _ greedy h
  · split
    · exact .guarded least greedy h
    · split
      · exact .star greedy h
      · apply Proper.sequence
        simpa using ⟨h, .star greedy h⟩
      · exact .counted _ _ greedy h

theorem lookBack_behind {kind : LookAround} {e : Expr} {back : Nat}
    (h : lookBack kind e = .ok back) : back ≠ 0 → kind.behind := by
  unfold lookBack at h
  cases hbehind : kind.behind with
  | true => exact fun _ => rfl
  | false =>
    obtain rfl : 0 = back := by simpa [hbehind, pure, Except.pure] using h
    exact fun hne => absurd rfl hne

theorem lookAround_proper {kind : LookAround} {e : Expr} {first low back : Nat} {plan : Plan}
    (he : (Expr.lookAround kind e).Settles base low) (hback : lookBack kind e = .ok back)
    (hplan : ∀ low, e.Settles base low → plan.Proper base first low) :
    (Plan.lookAround kind.negative back plan).Proper base first low := by
  cases hkind : kind.negative with
  | true => exact .refuted back plan
  | false => exact .lookAround (hplan _ (he.inside hkind (lookBack_behind hback)))

mutual

theorem ofExpr_proper {hard : Bool} {first low : Nat} {e : Expr} {p : Plan}
    (h : ofExpr hard first e = .ok p) (hfirst : 1 ≤ first) (he : e.Settles base low) :
    p.Proper base first low := by
  unfold ofExpr at h
  split at h
  · simp only [bind_pure_comp, map_eq_ok] at h
    obtain ⟨plans, hplans, rfl⟩ := h
    exact .sequence (ofEasy_proper hplans hfirst)
  · match e with
    | .empty =>
      obtain rfl := Except.ok.inj h
      exact .sequence (by simp)
    | .literal c ignoreCase =>
      simp only at h
      split at h
      · simp only [bind_pure_comp, map_eq_ok] at h
        obtain ⟨plans, hplans, rfl⟩ := h
        exact .sequence (ofEasy_proper hplans hfirst)
      · obtain rfl := Except.ok.inj h
        exact .literal [c]
    | .any newline =>
      obtain rfl := Except.ok.inj h
      exact .any newline
    | .assertion kind =>
      obtain rfl := Except.ok.inj h
      exact .look kind.look
    | .charClass spelling ignoreCase =>
      simp only [bind_pure_comp, map_eq_ok] at h
      obtain ⟨plans, hplans, rfl⟩ := h
      exact .sequence (ofEasy_proper hplans hfirst)
    | .concat parts =>
      simp only [bind_eq_ok, bind_pure_comp, map_eq_ok] at h
      obtain ⟨start, hstart, middle, hmiddle, last, hlast, rfl⟩ := h
      have hparts : Expr.AllSettle base low parts := ⟨he.keeps, he.behind⟩
      have hproper := ofMiddle_proper hmiddle hfirst hparts
      refine .sequence ?_
      simp only [List.forall_mem_append]
      exact ⟨⟨ofEasy_proper hstart hfirst, hproper⟩,
        fun p hp =>
          (ofEasy_proper hlast (by omega) p hp).mono (Nat.le_add_right _ _) (Nat.le_refl low)⟩
    | .alternation branches =>
      simp only [bind_pure_comp, map_eq_ok] at h
      obtain ⟨plans, hplans, rfl⟩ := h
      exact .alternatives (ofAll_proper hplans hfirst ⟨he.keeps, he.behind⟩)
    | .group sub =>
      simp only [bind_pure_comp, map_eq_ok] at h
      obtain ⟨plan, hplan, rfl⟩ := h
      exact .group (Nat.le_refl first) (by omega)
        (ofExpr_proper hplan (by omega) ⟨he.keeps, he.behind⟩)
    | .repetition least most greedy sub =>
      simp only [bind_pure_comp, map_eq_ok] at h
      obtain ⟨plan, hplan, rfl⟩ := h
      exact repeated_proper (ofExpr_proper hplan hfirst ⟨he.keeps, he.behind⟩)
    | .lookAround kind sub =>
      cases sub with
      | alternation branches =>
        simp only at h
        split at h
        · simp only [bind_pure_comp, map_eq_ok] at h
          obtain ⟨plans, hplans, rfl⟩ := h
          have hlooks := ofLooks_proper hplans hfirst he
          split
          · exact .sequence hlooks
          · exact .alternatives hlooks
        · simp only [bind_eq_ok, bind_pure_comp, map_eq_ok] at h
          obtain ⟨back, hback, plan, hplan, rfl⟩ := h
          exact lookAround_proper he hback fun low hsub => ofExpr_proper hplan hfirst hsub
      | _ =>
        simp only [bind_eq_ok, bind_pure_comp, map_eq_ok] at h
        obtain ⟨back, hback, plan, hplan, rfl⟩ := h
        exact lookAround_proper he hback fun low hsub => ofExpr_proper hplan hfirst hsub
    | .reference g =>
      obtain rfl := Except.ok.inj h
      exact .reference g
    | .groupMatched g =>
      obtain rfl := Except.ok.inj h
      exact .groupMatched g
    | .atomic sub =>
      simp only [bind_pure_comp, map_eq_ok] at h
      obtain ⟨plan, hplan, rfl⟩ := h
      exact .atomic (ofExpr_proper hplan hfirst ⟨he.keeps, he.behind⟩)
    | .keepOut =>
      obtain rfl := Except.ok.inj h
      exact .keepOut (he.keeps rfl)
    | .searchStart =>
      obtain rfl := Except.ok.inj h
      exact .searchStart
    | .conditional test ifTrue ifFalse =>
      simp only [bind_eq_ok, bind_pure_comp, map_eq_ok] at h
      obtain ⟨testPlan, htest, truePlan, htrue, falsePlan, hfalse, rfl⟩ := h
      obtain ⟨htest', htrue', hfalse'⟩ := he.conditional
      exact .conditional (ofExpr_proper htest hfirst htest')
        ((ofExpr_proper htrue (by omega) htrue').mono (by omega) (Nat.le_refl low))
        ((ofExpr_proper hfalse (by omega) hfalse').mono (by omega) (Nat.le_refl low))

theorem ofMiddle_proper {first skip count low : Nat} {parts : List Expr} {plans : List Plan}
    (h : ofMiddle first skip count parts = .ok plans) (hfirst : 1 ≤ first)
    (hparts : Expr.AllSettle base low parts) : ∀ p ∈ plans, p.Proper base first low := by
  match parts, skip, count with
  | [], _, _ =>
    obtain rfl := Except.ok.inj h
    simp
  | e :: rest, skip, 0 =>
    obtain rfl : [] = plans := by
      cases skip <;> exact Except.ok.inj h
    simp
  | e :: rest, 0, count + 1 =>
    simp only [ofMiddle, bind_eq_ok, bind_pure_comp, map_eq_ok] at h
    obtain ⟨plan, hplan, more, hmore, rfl⟩ := h
    have hrest := ofMiddle_proper hmore (by omega) hparts.tail
    exact List.forall_mem_cons.2 ⟨ofExpr_proper hplan hfirst hparts.head,
      fun p hp => (hrest p hp).mono (by omega) (Nat.le_refl low)⟩
  | e :: rest, skip + 1, count + 1 =>
    simp only [ofMiddle] at h
    have hrest := ofMiddle_proper h (by omega) hparts.tail
    exact fun p hp => (hrest p hp).mono (by omega) (Nat.le_refl low)

theorem ofAll_proper {hard : Bool} {first low : Nat} {branches : List Expr} {plans : List Plan}
    (h : ofAll hard first branches = .ok plans) (hfirst : 1 ≤ first)
    (hbranches : Expr.AllSettle base low branches) : ∀ p ∈ plans, p.Proper base first low := by
  match branches with
  | [] =>
    obtain rfl := Except.ok.inj h
    simp
  | e :: rest =>
    simp only [ofAll, bind_eq_ok, bind_pure_comp, map_eq_ok] at h
    obtain ⟨plan, hplan, more, hmore, rfl⟩ := h
    have hrest := ofAll_proper hmore (by omega) hbranches.tail
    exact List.forall_mem_cons.2 ⟨ofExpr_proper hplan hfirst hbranches.head,
      fun p hp => (hrest p hp).mono (by omega) (Nat.le_refl low)⟩

theorem ofLooks_proper {kind : LookAround} {first low : Nat} {branches : List Expr}
    {plans : List Plan} (h : ofLooks kind first branches = .ok plans) (hfirst : 1 ≤ first)
    (hbranches : (Expr.lookAround kind (.alternation branches)).Settles base low) :
    ∀ p ∈ plans, p.Proper base first low := by
  match branches with
  | [] =>
    obtain rfl := Except.ok.inj h
    simp
  | e :: rest =>
    simp only [ofLooks, bind_eq_ok, bind_pure_comp, map_eq_ok] at h
    obtain ⟨back, hback, plan, hplan, more, hmore, rfl⟩ := h
    obtain ⟨hhead, htail⟩ := hbranches.looks
    have hrest := ofLooks_proper hmore (by omega) htail
    have hfirst' : (Plan.lookAround kind.negative back plan).Proper base first low :=
      lookAround_proper hhead hback fun low hsub => ofExpr_proper hplan hfirst hsub
    exact List.forall_mem_cons.2 ⟨hfirst',
      fun p hp => (hrest p hp).mono (by omega) (Nat.le_refl low)⟩

end

end Plan

end Backtrack

end RegexGateway
