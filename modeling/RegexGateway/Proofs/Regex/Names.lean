import RegexGateway.Dialect.Standard
import RegexGateway.Proofs.Except
import RegexGateway.Proofs.Unicode.Legible

namespace RegexGateway

namespace Regex

/-- A text that starts with what no number starts with. -/
def IsName (name : String) : Prop := ∃ c ∈ name.toList.head?, c.isDigit = false

theorem IsName.ne_toString {name : String} (h : IsName name) (n : Nat) : name ≠ toString n := by
  rintro rfl
  obtain ⟨c, hc, hdigit⟩ := h
  have hmem : c ∈ Nat.toDigits 10 n := by
    exact List.mem_of_mem_head? (by simpa using hc)
  rw [Nat.isDigit_of_mem_toDigits (by decide) (by decide) hmem] at hdigit
  contradiction

theorem isNameChar_not_isDigit {c : Char} (h : isNameChar true c) : c.isDigit = false := by
  simp only [isNameChar, if_true, Bool.or_eq_true, decide_eq_true_eq] at h
  rcases h with rfl | h
  · decide
  · exact CharSet.alphabetic_not_isDigit h

namespace Read

variable {α β : Type} {P : α → Prop} {Q : β → Prop}

/-- Where it succeeds, a reading step yields only such values. -/
structure Yields (P : α → Prop) (x : Read α) : Prop where
  of_run : ∀ before a after, x.run before = .ok (a, after) → P a

theorem yields_pure {a : α} (h : P a) : Yields P (pure a) := by
  refine ⟨fun before b after hrun => ?_⟩
  obtain ⟨rfl, -⟩ := Prod.mk.inj (Except.ok.inj hrun)
  exact h

theorem yields_fail {span : Span} {error : SyntaxError} : Yields P (fail span error) := ⟨nofun⟩

theorem yields_ite {p : Prop} [Decidable p] {x y : Read α} (hx : p → Yields P x)
    (hy : ¬p → Yields P y) : Yields P (if p then x else y) := by
  split
  · exact hx ‹_›
  · exact hy ‹_›

theorem Yields.bind {x : Read α} {f : α → Read β} (hx : Yields P x)
    (hf : ∀ a, P a → Yields Q (f a)) : Yields Q (x >>= f) := by
  refine ⟨fun before b after hrun => ?_⟩
  rw [StateT.run_bind] at hrun
  obtain ⟨⟨a, between⟩, ha, hb⟩ := bind_eq_ok.1 hrun
  exact (hf a (hx.of_run before a between ha)).of_run between b after hb

theorem yields_bind {x : Read α} {f : α → Read β} (hf : ∀ a, Yields Q (f a)) :
    Yields Q (x >>= f) :=
  have hx : Yields (fun _ => True) x := ⟨fun _ _ _ _ => trivial⟩
  hx.bind fun a _ => hf a

theorem yields_fail_bind {span : Span} {error : SyntaxError} {f : α → Read β} :
    Yields Q (fail span error >>= f) :=
  have hfail : Yields (fun _ : α => False) (fail span error) := yields_fail
  hfail.bind nofun

theorem yields_guard {p : Prop} [Decidable p] {span : Span} {error : SyntaxError} {x : Read α}
    (hx : ¬p → Yields P x) :
    Yields P (if p then do
        fail span error
        x
      else x) :=
  yields_ite (fun _ => yields_fail_bind) hx

end Read

/-- A kind of group that bears a name at most where it bears a proper one. -/
def GroupKind.Named : GroupKind → Prop
  | .capture _ (some name) => IsName name
  | _ => True

mutual

def Ast.Named : Ast → Prop
  | .repetition _ _ _ sub => sub.Named
  | .group _ kind sub => kind.Named ∧ sub.Named
  | .alternation _ branches => Ast.AllNamed branches
  | .concat _ parts => Ast.AllNamed parts
  | _ => True

def Ast.AllNamed : List Ast → Prop
  | [] => True
  | a :: rest => a.Named ∧ Ast.AllNamed rest

end

theorem Ast.allNamed_iff {list : List Ast} : Ast.AllNamed list ↔ ∀ a ∈ list, a.Named := by
  induction list with
  | nil => simp [Ast.AllNamed]
  | cons a rest ih => simp [Ast.AllNamed, ih]

theorem readGroupName_yields : Read.Yields IsName readGroupName := by
  unfold readGroupName
  apply Read.yields_bind
  intro r
  dsimp only
  split
  · exact Read.yields_fail_bind
  · rename_i hvalid
    apply Read.yields_guard
    intro _
    apply Read.yields_guard
    intro hne
    generalize r.rest.takeWhile (· ≠ '>') = name at hvalid hne ⊢
    have hname : IsName (String.ofList name) := by
      have hnonempty : name ≠ [] := by simpa using hne
      obtain ⟨c, rest, rfl⟩ := List.exists_cons_of_ne_nil hnonempty
      have hfirst := List.find?_eq_none.1 hvalid (c, 0) (by simp)
      exact ⟨c, by simp, isNameChar_not_isDigit (by simpa using hfirst)⟩
    split
    · exact Read.yields_fail_bind
    · apply Read.yields_bind
      intro _
      exact Read.yields_pure hname

theorem readGroupOpening_yields :
    Read.Yields (fun opening => ∀ kind, opening = .ok kind → kind.Named) readGroupOpening := by
  unfold readGroupOpening
  apply Read.yields_bind
  intro start
  apply Read.yields_bind
  intro opening
  apply Read.yields_bind
  intro _
  apply Read.yields_bind
  intro r
  dsimp only
  split
  · exact Read.yields_fail_bind
  · split
    · apply Read.yields_bind
      intro _
      apply Read.yields_bind
      intro index
      apply readGroupName_yields.bind
      intro name hname
      refine Read.yields_pure ?_
      rintro kind ⟨⟩
      exact hname
    · split
      · apply Read.yields_bind
        intro index
        refine Read.yields_pure ?_
        rintro kind ⟨⟩
        trivial
      · apply Read.yields_guard
        intro _
        apply Read.yields_bind
        intro _
        apply Read.yields_bind
        intro items
        apply Read.yields_bind
        intro done
        apply Read.yields_bind
        intro _
        apply Read.yields_ite
        · intro _
          apply Read.yields_guard
          intro _
          exact Read.yields_pure nofun
        · intro _
          refine Read.yields_pure ?_
          rintro kind ⟨⟩
          trivial

theorem repeated_yields {parts : List Ast} (h : ∀ a ∈ parts, a.Named) :
    Read.Yields (fun last => last.1.Named ∧ ∀ a ∈ last.2, a.Named) (repeated parts) := by
  unfold repeated
  apply Read.yields_bind
  intro r
  split
  · exact Read.yields_fail
  · exact Read.yields_fail
  · exact Read.yields_fail
  · exact Read.yields_pure (List.forall_mem_cons.1 h)

theorem readRepetition_yields {counts : Counts} {parts : List Ast} (h : ∀ a ∈ parts, a.Named) :
    Read.Yields (fun parts => ∀ a ∈ parts, a.Named) (readRepetition counts parts) := by
  unfold readRepetition
  apply (repeated_yields h).bind
  rintro ⟨a, before⟩ ⟨ha, hbefore⟩
  apply Read.yields_bind
  intro _
  apply Read.yields_bind
  intro r
  have hparts (span : Span) (greedy : Bool) :
      ∀ a' ∈ Ast.repetition span counts greedy a :: before, a'.Named :=
    List.forall_mem_cons.2 ⟨ha, hbefore⟩
  dsimp only
  apply Read.yields_ite
  · intro _
    apply Read.yields_bind
    intro _
    apply Read.yields_bind
    intro done
    exact Read.yields_pure (hparts _ _)
  · intro _
    apply Read.yields_bind
    intro done
    exact Read.yields_pure (hparts _ _)

theorem readCounted_yields {parts : List Ast} (h : ∀ a ∈ parts, a.Named) :
    Read.Yields (fun parts => ∀ a ∈ parts, a.Named) (readCounted parts) := by
  unfold readCounted
  apply (repeated_yields h).bind
  rintro ⟨a, before⟩ ⟨ha, hbefore⟩
  apply Read.yields_bind
  intro start
  apply Read.yields_bind
  intro counts
  have hparts (span : Span) (greedy : Bool) :
      ∀ a' ∈ Ast.repetition span counts greedy a :: before, a'.Named :=
    List.forall_mem_cons.2 ⟨ha, hbefore⟩
  apply Read.yields_bind
  intro _
  apply Read.yields_ite
  · intro _
    apply Read.yields_bind
    intro _
    exact Read.yields_fail_bind
  · intro _
    apply Read.yields_bind
    intro _
    apply Read.yields_bind
    intro r
    apply Read.yields_ite
    · intro _
      apply Read.yields_bind
      intro _
      apply Read.yields_bind
      intro done
      exact Read.yields_guard fun _ => Read.yields_pure (hparts _ _)
    · intro _
      apply Read.yields_bind
      intro done
      exact Read.yields_guard fun _ => Read.yields_pure (hparts _ _)

theorem Primitive.toAst_named (p : Primitive) : p.toAst.Named := by
  cases p <;> trivial

structure GroupBody.Named (b : GroupBody) : Prop where
  branches : ∀ a ∈ b.branches, a.Named
  parts : ∀ a ∈ b.parts, a.Named

namespace GroupBody

theorem startingAt_named (pos : Nat) : (startingAt pos).Named := ⟨nofun, nofun⟩

variable {b : GroupBody}

theorem ofParts_named {parts : List Ast} (h : ∀ a ∈ parts, a.Named) (span : Span) :
    (Ast.ofParts span parts).Named := by
  unfold Ast.ofParts
  split
  · trivial
  · exact h _ List.mem_cons_self
  · exact Ast.allNamed_iff.2 h

theorem Named.last (h : b.Named) (span : Span) : (Ast.ofParts span b.parts.reverse).Named :=
  ofParts_named (fun a ha => h.parts a (List.mem_reverse.1 ha)) span

theorem Named.branch (h : b.Named) (stop : Nat) : (b.branch stop).Named :=
  ⟨List.forall_mem_cons.2 ⟨h.last _, h.branches⟩, nofun⟩

theorem Named.withParts (h : b.Named) {parts : List Ast} (hparts : ∀ a ∈ parts, a.Named) :
    (b.withParts parts).Named := ⟨h.branches, hparts⟩

theorem Named.push (h : b.Named) {a : Ast} (ha : a.Named) : (b.withParts (a :: b.parts)).Named :=
  h.withParts (List.forall_mem_cons.2 ⟨ha, h.parts⟩)

theorem Named.close (h : b.Named) (stop : Nat) : (b.close stop).Named := by
  unfold GroupBody.close
  dsimp only
  split
  · exact h.last _
  · rw [Ast.Named, Ast.allNamed_iff]
    intro a ha
    rcases List.mem_cons.1 (List.mem_reverse.1 ha) with rfl | ha
    · exact h.last _
    · exact h.branches a ha

end GroupBody

theorem readBody_yields (fuel : Nat) (opening : Option Span) {body : GroupBody}
    (h : body.Named) : Read.Yields Ast.Named (readBody fuel opening body) := by
  induction fuel generalizing opening body with
  | zero =>
    rw [readBody]
    apply Read.yields_bind
    intro r
    exact Read.yields_pure (h.close _)
  | succ fuel ih =>
    rw [readBody]
    apply Read.yields_bind
    intro _
    apply Read.yields_bind
    intro r
    split
    · split
      · exact Read.yields_fail
      · exact Read.yields_pure (h.close _)
    · split
      · exact Read.yields_pure (h.close _)
      · exact Read.yields_fail
    · apply Read.yields_bind
      intro _
      exact ih _ (h.branch _)
    · apply readGroupOpening_yields.bind
      intro kind hkind
      split
      · apply Read.yields_bind
        intro after
        split
        · apply Read.yields_bind
          intro _
          exact ih _ (h.push trivial)
        · exact ih _ (h.push trivial)
      · rename_i kind
        apply Read.yields_bind
        intro _
        apply Read.yields_bind
        intro s
        apply (ih _ (GroupBody.startingAt_named _)).bind
        intro sub hsub
        apply Read.yields_bind
        intro _
        apply Read.yields_bind
        intro done
        exact ih _ (h.push ⟨hkind kind rfl, hsub⟩)
    · apply Read.yields_bind
      intro cls
      split
      · exact ih _ (h.push trivial)
      · exact ih _ h
    · exact (readRepetition_yields h.parts).bind fun parts hparts => ih _ (h.withParts hparts)
    · exact (readRepetition_yields h.parts).bind fun parts hparts => ih _ (h.withParts hparts)
    · exact (readRepetition_yields h.parts).bind fun parts hparts => ih _ (h.withParts hparts)
    · exact (readCounted_yields h.parts).bind fun parts hparts => ih _ (h.withParts hparts)
    · apply Read.yields_bind
      intro p
      exact ih _ (h.push p.toAst_named)

theorem Ast.parse_named {pattern : List Char} {ignoreSpace : Bool} {ast : Ast}
    (h : Ast.parse pattern ignoreSpace = .ok ast) : ast.Named := by
  obtain ⟨⟨whole, last⟩, hread, hdeep⟩ := bind_eq_ok.1 h
  have hnamed := (readBody_yields _ none (GroupBody.startingAt_named 0)).of_run _ whole last hread
  dsimp only at hdeep
  split at hdeep
  · contradiction
  · obtain rfl := Except.ok.inj hdeep
    exact hnamed

def Expr.Named (e : Expr) : Prop := ∀ index name, (index, some name) ∈ e.captures → IsName name

namespace Expr

theorem repeated_named {e : Expr} (h : e.Named) (least : Nat) (most : Option Nat)
    (greedy : Bool) : (repeated least most greedy e).Named := by
  unfold repeated
  split
  split
  · exact nofun
  · split
    · exact h
    · exact h

theorem capturesAll_eq (es : List Expr) : capturesAll es = es.flatMap captures := by
  induction es with
  | nil => rfl
  | cons e rest ih => rw [capturesAll, ih, List.flatMap_cons]

theorem named_of_capturesAll {e : Expr} {es : List Expr} (he : e.captures = capturesAll es)
    (h : ∀ e ∈ es, e.Named) : e.Named := by
  intro index name hmem
  rw [he, capturesAll_eq] at hmem
  obtain ⟨part, hpart, hmem⟩ := List.mem_flatMap.1 hmem
  exact h part hpart index name hmem

mutual

theorem ofAstUnder_named {m after : Modes} {ast : Ast} {e : Expr} (hast : ast.Named)
    (h : ofAstUnder m ast = .ok (e, after)) : e.Named := by
  cases ast with
  | repetition span counts greedy sub =>
    obtain ⟨⟨part, last⟩, hpart, heq⟩ := bind_eq_ok.1 h
    obtain ⟨rfl, -⟩ := Prod.mk.inj (Except.ok.inj heq)
    have hsub : sub.Named := hast
    exact repeated_named (ofAstUnder_named hsub hpart) _ _ _
  | group span kind sub =>
    obtain ⟨hkind, hsub⟩ := hast
    cases kind with
    | capture index name =>
      obtain ⟨⟨part, last⟩, hpart, heq⟩ := bind_eq_ok.1 h
      obtain ⟨rfl, -⟩ := Prod.mk.inj (Except.ok.inj heq)
      intro index' name' hmem
      rcases List.mem_cons.1 hmem with heq | hmem
      · obtain ⟨rfl, rfl⟩ := Prod.mk.inj heq
        exact hkind
      · exact ofAstUnder_named hsub hpart index' name' hmem
    | nonCapturing items =>
      obtain ⟨⟨part, last⟩, hpart, heq⟩ := bind_eq_ok.1 h
      obtain ⟨rfl, -⟩ := Prod.mk.inj (Except.ok.inj heq)
      exact ofAstUnder_named hsub hpart
  | alternation span branches =>
    obtain ⟨⟨es, last⟩, hes, heq⟩ := bind_eq_ok.1 h
    obtain ⟨rfl, -⟩ := Prod.mk.inj (Except.ok.inj heq)
    exact named_of_capturesAll rfl (ofAsts_named hast hes)
  | concat span parts =>
    obtain ⟨⟨es, last⟩, hes, heq⟩ := bind_eq_ok.1 h
    obtain ⟨rfl, -⟩ := Prod.mk.inj (Except.ok.inj heq)
    exact named_of_capturesAll rfl (ofAsts_named hast hes)
  | empty | flags | assertion =>
    obtain ⟨rfl, -⟩ := Prod.mk.inj (Except.ok.inj h)
    exact nofun
  | literal | dot | property | perl =>
    obtain ⟨members, -, heq⟩ := bind_eq_ok.1 h
    obtain ⟨rfl, -⟩ := Prod.mk.inj (Except.ok.inj heq)
    exact nofun
  | bracketed span negated body =>
    obtain ⟨inner, -, h⟩ := bind_eq_ok.1 h
    obtain ⟨members, -, heq⟩ := bind_eq_ok.1 h
    obtain ⟨rfl, -⟩ := Prod.mk.inj (Except.ok.inj heq)
    exact nofun

theorem ofAsts_named {m after : Modes} {asts : List Ast} {es : List Expr}
    (hasts : Ast.AllNamed asts) (h : ofAsts m asts = .ok (es, after)) : ∀ e ∈ es, e.Named := by
  cases asts with
  | nil =>
    obtain ⟨rfl, -⟩ := Prod.mk.inj (Except.ok.inj h)
    exact nofun
  | cons a rest =>
    obtain ⟨ha, hrest⟩ := hasts
    obtain ⟨⟨e, between⟩, he, h⟩ := bind_eq_ok.1 h
    obtain ⟨⟨others, last⟩, hothers, heq⟩ := bind_eq_ok.1 h
    obtain ⟨rfl, -⟩ := Prod.mk.inj (Except.ok.inj heq)
    exact List.forall_mem_cons.2 ⟨ofAstUnder_named ha he, ofAsts_named hrest hothers⟩

end

theorem Named.groupNames {e : Expr} (h : e.Named) {name : String}
    (hname : some name ∈ e.groupNames) : IsName name := by
  obtain ⟨i, -, hlookup⟩ := List.mem_map.1 hname
  obtain ⟨before, after, heq, -⟩ := List.lookup_eq_some_iff.1 (Option.join_eq_some_iff.1 hlookup)
  exact h (i + 1) name (by simp [heq])

end Expr

theorem compile_named {pattern : List Char} {ignoreSpace : Bool} {modes : Modes}
    {program : Program} (h : compile pattern ignoreSpace modes = .ok program) :
    ∀ name, some name ∈ program.groupNames → IsName name := by
  simp only [compile, bind_eq_ok, mapError_eq_ok, elim_eq_ok, Except.ok.injEq] at h
  obtain ⟨ast, hast, e, he, _, hprogram, rfl⟩ := h
  obtain ⟨⟨expr, after⟩, hexpr, heq⟩ := bind_eq_ok.1 he
  obtain rfl := Except.ok.inj heq
  have hnamed := Expr.ofAstUnder_named (Ast.parse_named hast) hexpr
  unfold Program.ofExpr? at hprogram
  split at hprogram
  · obtain rfl := Option.some.inj hprogram
    intro name hname
    exact hnamed.groupNames hname
  · contradiction

end Regex

end RegexGateway
