import RegexGateway.Dialect.Fancy
import RegexGateway.Pattern.Scan
import RegexGateway.Proofs.Except
import RegexGateway.Proofs.Text.Bytes
import RegexGateway.Proofs.Unicode.Legible

namespace RegexGateway

namespace Backtrack

theorem isNameChar_digit {c : Char} (h : c.isDigit) : isNameChar c := by
  have hnine : c.toNat ≤ '9'.toNat := (Char.isDigit_iff_toNat.1 h).2
  have hcode : c.toNat < 'A'.toNat := Nat.lt_of_le_of_lt hnine (by decide)
  simp [isNameChar, (CharSet.alphanumeric_iff_isDigit hcode).2 h]

theorem isNameChar_close : isNameChar '>' = false := by
  have hclose : CharSet.alphanumeric.contains '>' = false := by
    apply Bool.eq_false_iff.2
    intro hcontains
    exact absurd ((CharSet.alphanumeric_iff_isDigit (by decide)).1 hcontains) (by decide)
  simp [isNameChar, hclose]

theorem groupName?_digits {digits rest : List Char} (hne : digits ≠ [])
    (hdigits : digits.all Char.isDigit) :
    groupName? ['<'] ['>'] false ('<' :: (digits ++ '>' :: rest)) = some digits := by
  have hname : (digits ++ '>' :: rest).takeWhile isNameChar = digits := by
    rw [List.takeWhile_append_of_pos fun c hc => isNameChar_digit (List.all_eq_true.1 hdigits c hc),
      List.takeWhile_cons_of_neg (by simp [isNameChar_close]), List.append_nil]
  have hsize : 0 < Text.byteLength digits := by
    obtain ⟨d, ds, rfl⟩ := List.exists_cons_of_ne_nil hne
    exact Nat.lt_of_lt_of_le d.utf8Size_pos (Nat.le_add_right ..)
  have hlong : '>'.utf8Size < Text.byteLength digits + ('>'.utf8Size + Text.byteLength rest) := by
    omega
  simp [groupName?, hname, hne, hlong]

variable {r r' start : Reader} {fuel depth : Nat} {digits rest : List Char}

theorem run_bind_of_ok {α β : Type} {x : Read α} {f : α → Read β} {a : α}
    (h : x.run r = .ok (a, r')) : (x >>= f).run r = (f a).run r' := by
  rw [StateT.run_bind, h]
  rfl

def Reader.named (r : Reader) (name : List Char) : Reader :=
  { r.skip (1 + name.length + 2) with
    groups := r.groups + 1, names := (String.ofList name, r.groups + 1) :: r.names }

theorem readGroupName_digits (hne : digits ≠ []) (hdigits : digits.all Char.isDigit)
    (hrest : r.rest = '?' :: '<' :: (digits ++ '>' :: rest)) :
    (readGroupName 1).run r = .ok ((), r.named digits) := by
  simp only [readGroupName, StateT.run_bind, StateT.run_get, hrest, List.drop_succ_cons,
    List.drop_zero, pure_bind, groupName?_digits hne hdigits]
  rfl

theorem readOpening_digits (hne : digits ≠ []) (hdigits : digits.all Char.isDigit)
    (hrest : r.rest = '?' :: '<' :: (digits ++ '>' :: rest)) :
    readOpening.run r = .ok (.capture, r.named digits) := by
  have hname := readGroupName_digits hne hdigits hrest
  obtain ⟨d, ds, rfl⟩ := List.exists_cons_of_ne_nil hne
  have hd : d.isDigit := List.all_eq_true.1 hdigits d List.mem_cons_self
  have hequals : ¬('=' = d) := by rintro rfl; contradiction
  have hbang : ¬('!' = d) := by rintro rfl; contradiction
  simp [readOpening, Reader.startsWith, hrest, hequals, hbang, hname]

theorem readGroup_capture (hdepth : depth < nestLimit)
    (hsettle : settle.run (start.skip 1) = .ok ((), r))
    (hopening : readOpening.run r = .ok (.capture, r')) :
    (readGroup (fuel + 1) depth).run start = (do
      let sub ← readBody fuel depth .empty
      readClosing
      return .group sub : Read Expr).run r' := by
  have hshallow : ¬nestLimit ≤ depth := Nat.not_le.2 hdepth
  have hget : (get : Read Reader).run start = .ok (start, start) := rfl
  have hset : (set (start.skip 1) : Read PUnit).run start = .ok ((), start.skip 1) := rfl
  rw [readGroup, run_bind_of_ok hget]
  simp only [if_neg hshallow]
  rw [run_bind_of_ok hset, run_bind_of_ok hsettle, run_bind_of_ok hopening]

theorem readBody_group {body : Body} (hsettle : settle.run start = .ok ((), r))
    (hrest : r.rest = '(' :: rest) :
    (readBody (fuel + 2) depth body).run start = (do
      let e ← readGroup fuel (depth + 1)
      readBody (fuel + 1) depth (body.push (← readRepetition e))).run r := by
  have hget : (get : Read Reader).run r = .ok (r, r) := rfl
  rw [readBody, run_bind_of_ok hsettle, run_bind_of_ok hget]
  simp [hrest, readAtom]

def numberName : List Char := ['(', '?', '<', '2', '>', 'a', ')', '(', 'b', ')']

theorem parse_numberName :
    ∃ tree, Tree.parse numberName = .ok tree ∧ tree.names = [("2", 1)] ∧
      tree.expr.refersBack 1 ∧ tree.expr.isHard = false ∧
      tree.expr.pattern 0 = ['(', 'a', ')', '(', 'b', ')'] := by
  have hstart : settle.run (.ofPattern numberName) = .ok ((), .ofPattern numberName) := rfl
  have hinside : settle.run ((Reader.ofPattern numberName).skip 1) =
      .ok ((), (Reader.ofPattern numberName).skip 1) := rfl
  have hbody : (Reader.ofPattern numberName).rest = '(' :: numberName.tail := rfl
  have hname : ((Reader.ofPattern numberName).skip 1).rest =
      '?' :: '<' :: (['2'] ++ '>' :: ['a', ')', '(', 'b', ')']) := rfl
  have hopening := readOpening_digits (by decide) (by decide) hname
  have hfuel : 3 * numberName.length + 3 = 31 + 2 := rfl
  -- What comes after the name can be computed. The name itself is looked up in a table too long
  -- for that.
  have hread : (Tree.parse numberName).toOption.map (fun tree =>
      (tree.names, tree.expr.refersBack 1, tree.expr.isHard, tree.expr.pattern 0)) =
        some ([("2", 1)], true, false, ['(', 'a', ')', '(', 'b', ')']) := by
    rw [Tree.parse, hfuel, readBody_group hstart hbody, StateT.run_bind,
      readGroup_capture (by decide) hinside hopening]
    decide +kernel
  obtain ⟨tree, htree, hparts⟩ := Option.map_eq_some_iff.1 hread
  simp only [Prod.mk.injEq] at hparts
  exact ⟨tree, toOption_eq_some.1 htree, hparts⟩

theorem Tree.compile_easy {tree : Tree} {program : Regex.Program}
    (hrefers : tree.expr.refersBack 1) (hhard : tree.expr.isHard = false)
    (h : Regex.compile (tree.expr.pattern 0) false Regex.Modes.default = .ok program) :
    tree.compile = .ok (.easy program) := by
  simp [compile, hrefers, hhard, h, pure, Except.pure]

theorem compile_eq_ok {pattern : List Char} {tree : Tree} {compiled : Compiled}
    (htree : Tree.parse pattern = .ok tree) (hcompiled : tree.compile = .ok compiled) :
    compile pattern = .ok (compiled.matcher (tree.groupNames compiled.groups)) := by
  rw [compile, htree]
  simp only [hcompiled, mapError_ok, bind, Except.bind, pure, Except.pure]

theorem compile_numberName :
    ∃ matcher, compile numberName = .ok matcher ∧ matcher.groupNames = [some "2", none] ∧
      matcher.scan false true ['a', 'b'] = .ok [⟨⟨0, 2⟩, [some ⟨0, 1⟩, some ⟨1, 2⟩]⟩] := by
  obtain ⟨tree, hparse, hnames, hrefers, hhard, hpattern⟩ := parse_numberName
  have hrun : (Regex.compile ['(', 'a', ')', '(', 'b', ')'] false Regex.Modes.default).toOption.map
      (fun program => (program.groupNames.length,
        (((Compiled.easy program).matcher [some "2", none]).scan false true ['a', 'b']).toOption)) =
          some (2, some [⟨⟨0, 2⟩, [some ⟨0, 1⟩, some ⟨1, 2⟩]⟩]) := by
    decide +kernel
  obtain ⟨program, hprogram, hpair⟩ := Option.map_eq_some_iff.1 hrun
  obtain ⟨hgroups, hscan⟩ := Prod.mk.inj hpair
  rw [toOption_eq_some] at hprogram hscan
  rw [← hpattern] at hprogram
  have hnamed : tree.groupNames (Compiled.easy program).groups = [some "2", none] := by
    rw [Compiled.groups, hgroups, Tree.groupNames, hnames]
    decide
  have hcompiled := compile_eq_ok hparse (Tree.compile_easy hrefers hhard hprogram)
  rw [hnamed] at hcompiled
  exact ⟨_, hcompiled, rfl, hscan⟩

end Backtrack

end RegexGateway
