import RegexGateway.Dialect.Available
import RegexGateway.Proofs.Backtrack.Machine
import RegexGateway.Proofs.Pattern.Compile
import RegexGateway.Proofs.Pattern.Slices

namespace RegexGateway

theorem Regex.Program.find_cuts {p : Program} {text : List Char} {start : Nat} {m : Match}
    (hstart : Text.isBoundary text start) (hfind : p.matcher.find text start = .ok (some m)) :
    m.Cuts text p.groupNames.length ∧ start ≤ m.span.start := by
  obtain ⟨found, hfound, rfl⟩ := Option.map_eq_some_iff.1 (Except.ok.inj hfind)
  have hsize : Text.charIndex text start ≤ text.toArray.size := by
    simpa using Text.charIndex_le_length text start
  obtain ⟨hle, hwithin⟩ := search?_within hsize hfound
  rw [List.size_toArray] at hwithin
  refine ⟨hwithin.cuts fun _ _ => rfl, ?_⟩
  calc start = Text.byteOffset text (Text.charIndex text start) :=
        (Text.byteOffset_charIndex hstart).symm
    _ ≤ Text.byteOffset text found.span.start := Text.byteOffset_mono text hle

namespace Backtrack

/-- Whether a pattern lets the match start anew where it looks behind. -/
def keepsBehind (pattern : List Char) : Bool :=
  match Tree.parse pattern with
  | .ok tree => tree.expr.keepsBehind
  | .error _ => false

theorem Tree.compile_hard (t : Tree) {machine : Machine} (h : t.compile = .ok (.hard machine)) :
    Plan.ofExpr true 1 t.expr = .ok machine.plan := by
  unfold Tree.compile at h
  by_cases hback : t.expr.refersBack 1
  · by_cases hhard : t.expr.isHard
    · simp only [hback, hhard, Bool.not_true, Bool.false_eq_true, if_false, if_true,
        bind_pure_comp, map_eq_ok] at h
      obtain ⟨plan, hplan, heq⟩ := h
      obtain ⟨rfl⟩ := Compiled.hard.inj heq
      exact hplan
    · simp only [hback, hhard, Bool.not_true, Bool.false_eq_true, if_false] at h
      split at h
      · exact Compiled.noConfusion (Except.ok.inj h)
      · exact absurd h throw_ne_ok
      · exact absurd h throw_ne_ok
  · simp [hback, bind_eq_ok] at h

theorem Tree.compile_cuts {t : Tree} {c : Compiled} (h : t.compile = .ok c)
    {names : List (Option String)} {text : List Char} {start : Nat} {m : Match}
    (hstart : Text.isBoundary text start)
    (hfind : (c.matcher names).find text start = .ok (some m)) :
    m.Cuts text c.groups ∧ (t.expr.keepsBehind = false → start ≤ m.span.start) := by
  cases c with
  | easy program =>
    obtain ⟨hcuts, hle⟩ := Regex.Program.find_cuts hstart hfind
    exact ⟨hcuts, fun _ => hle⟩
  | hard machine =>
    have hfound : machine.search text start = .ok (some m) := mapError_eq_ok.1 hfind
    have hplan := t.compile_hard h
    constructor
    · have hproper : machine.plan.Proper 0 1 start := Plan.ofExpr_proper hplan (Nat.le_refl 1)
        ⟨fun _ => Nat.zero_le start, fun _ => rfl⟩
      exact (Machine.search_cuts hproper (Nat.zero_le start) hstart hfound).1
    · intro hbehind
      have hproper : machine.plan.Proper start 1 start := Plan.ofExpr_proper hplan (Nat.le_refl 1)
        ⟨fun _ => Nat.le_refl start, fun h => by simp [hbehind] at h⟩
      exact (Machine.search_cuts hproper (Nat.le_refl start) hstart hfound).2

theorem compile_cuts {pattern : List Char} {matcher : Matcher}
    (h : compile pattern = .ok matcher) {text : List Char} {start : Nat} {m : Match}
    (hstart : Text.isBoundary text start) (hfind : matcher.find text start = .ok (some m)) :
    m.Cuts text matcher.groupNames.length ∧
      (keepsBehind pattern = false → start ≤ m.span.start) := by
  obtain ⟨tree, htree, hcompiled⟩ := bind_eq_ok.1 h
  obtain ⟨compiled, hcompile, hmatcher⟩ := bind_eq_ok.1 hcompiled
  obtain rfl := Except.ok.inj hmatcher
  have hcuts := Tree.compile_cuts (mapError_eq_ok.1 hcompile) hstart hfind
  have hgroups : (tree.groupNames compiled.groups).length = compiled.groups := by
    simp [Tree.groupNames]
  simp only [keepsBehind, htree]
  change m.Cuts text (tree.groupNames compiled.groups).length ∧ _
  rwa [hgroups]

end Backtrack

namespace Dialect

/-- Whether a pattern lets the match start anew where it looks behind, if the dialect can. -/
def keepsBehind (d : Dialect) (pattern : List Char) (flags : FlagSet) : Bool :=
  d.kind = .fancy && Backtrack.keepsBehind (flags.inline ++ pattern)

theorem standard_compile {pattern : List Char} {flags : FlagSet} {matcher : Matcher}
    (h : standard.compile pattern flags = .ok matcher) :
    ∃ program : Regex.Program, matcher = program.matcher := by
  simp only [standard] at h
  split at h
  · contradiction
  · split at h
    · rename_i program _
      exact ⟨program, (Except.ok.inj h).symm⟩
    · contradiction

theorem fancy_compile {pattern : List Char} {flags : FlagSet} {matcher : Matcher}
    (h : fancy.compile pattern flags = .ok matcher) :
    Backtrack.compile (flags.inline ++ pattern) = .ok matcher := by
  simp only [fancy] at h
  split at h
  · contradiction
  · split at h
    · rename_i found hfound
      obtain rfl := Except.ok.inj h
      exact hfound
    · split at h <;> contradiction

theorem find_cuts {d : Dialect} (hd : d = standard ∨ d = fancy) {pattern : List Char}
    {flags : FlagSet} {matcher : Matcher} (hcompile : d.compile pattern flags = .ok matcher)
    {text : List Char} {start : Nat} {m : Match} (hstart : Text.isBoundary text start)
    (hfind : matcher.find text start = .ok (some m)) :
    m.Cuts text matcher.groupNames.length ∧
      (d.keepsBehind pattern flags = false → start ≤ m.span.start) := by
  rcases hd with rfl | rfl
  · obtain ⟨program, rfl⟩ := standard_compile hcompile
    obtain ⟨hcuts, hle⟩ := Regex.Program.find_cuts hstart hfind
    exact ⟨hcuts, fun _ => hle⟩
  · exact Backtrack.compile_cuts (fancy_compile hcompile) hstart hfind

end Dialect

namespace Runner

theorem cutting_of_compile {r : Runner} (hr : r.dialect = .standard ∨ r.dialect = .fancy)
    {record : PatternRecord} {p : CompiledPattern} (hp : r.compile record = .ok p)
    (hkeeps : r.dialect.keepsBehind record.regex (.ofModifiers p.modifiers) = false) :
    p.matcher.Cutting := by
  intro text start m hstart hfind
  obtain ⟨hcuts, hle⟩ := Dialect.find_cuts hr (compile_matcher hp) hstart hfind
  exact ⟨hcuts, hle hkeeps⟩

/-- What the two dialects find can be cut out of the text: the spans of a match and of its groups do
not run backwards and lie between characters, and there is a span for each name. If a pattern lets
no match start anew where it looks behind, a match starts no earlier than its search, so runs of the
pattern come to an end, and every piece that they take of a text is there. -/
theorem finds_cut (r : Runner) (hr : r.dialect = .standard ∨ r.dialect = .fancy) :
    (∀ pattern flags matcher, r.dialect.compile pattern flags = .ok matcher →
      ∀ text start m, Text.isBoundary text start → matcher.find text start = .ok (some m) →
        m.Cuts text matcher.groupNames.length ∧
          (r.dialect.keepsBehind pattern flags = false → start ≤ m.span.start)) ∧
    ∀ record p, r.compile record = .ok p →
      r.dialect.keepsBehind record.regex (.ofModifiers p.modifiers) = false →
      ∀ text, p.execute? text = some (p.execute text) ∧
        p.replaceAll? text = some (p.replaceAll text) := by
  constructor
  · intro pattern flags matcher hcompile text start m hstart hfind
    exact Dialect.find_cuts hr hcompile hstart hfind
  · intro record p hp hkeeps text
    have hcutting := cutting_of_compile hr hp hkeeps
    exact ⟨p.execute?_eq hcutting text, p.replaceAll?_eq hcutting text⟩

def fancyWords : Runner := ⟨.words, Capabilities.words.defaults, .fancy⟩

def behindA : PatternRecord := ⟨1, "(?<=a)(b)".toList, ['g'], none, "[$1]".toList, false⟩

theorem finds_cut_behindA :
    (fancyWords.dialect = .standard ∨ fancyWords.dialect = .fancy) ∧
    ∃ p, fancyWords.compile behindA = .ok p ∧
      p.replaceAll? ['a', 'b', 'b'] = some (.ok ['a', '[', 'b', ']', 'b']) := by
  have hdialect : fancyWords.dialect = .standard ∨ fancyWords.dialect = .fancy := .inr rfl
  have hrun : (fancyWords.compile behindA).toOption.map
      (fun p => (p.modifiers, (p.replaceAll ['a', 'b', 'b']).toOption)) =
        some (['g'], some ['a', '[', 'b', ']', 'b']) := by
    decide +kernel
  have hkeeps : fancyWords.dialect.keepsBehind behindA.regex (.ofModifiers ['g']) = false := by
    decide +kernel
  obtain ⟨p, hp, hpair⟩ := Option.map_eq_some_iff.1 hrun
  obtain ⟨hmodifiers, hreplaced⟩ := Prod.mk.inj hpair
  rw [toOption_eq_some] at hp hreplaced
  rewrite [← hmodifiers] at hkeeps
  obtain ⟨-, hruns⟩ := fancyWords.finds_cut hdialect
  obtain ⟨-, hreplace⟩ := hruns behindA p hp hkeeps ['a', 'b', 'b']
  exact ⟨hdialect, p, hp, by rw [hreplace, hreplaced]⟩

-- The second match of this pattern starts inside the first one, so no piece lies between them.
example : (fancyWords.compile { behindA with regex := "(?<=\\Ka)a".toList }).toOption.map
    (fun p => (p.replaceAll? ['a', 'a', 'a']).isNone) = some true := by
  decide +kernel

end Runner

/-- A dialect that lets a match start anew where it looks behind finds what lies before its search,
over and over again. -/
theorem keepOut_behind :
    ∃ matcher m, Dialect.fancy.compile "(?<=\\Ka)".toList (.ofModifiers []) = .ok matcher ∧
      Text.isBoundary ['a'] 1 ∧ matcher.find ['a'] 1 = .ok (some m) ∧ m.span.start < 1 ∧
      ∀ turns, matcher.walk? false false ['a'] turns 1 = none := by
  have hfind : (Dialect.fancy.compile "(?<=\\Ka)".toList (.ofModifiers [])).toOption.bind
      (fun matcher => (matcher.find ['a'] 1).toOption) = some (some ⟨⟨0, 1⟩, []⟩) := by
    decide +kernel
  obtain ⟨matcher, hcompile, hfound⟩ := Option.bind_eq_some_iff.1 hfind
  rw [toOption_eq_some] at hcompile hfound
  refine ⟨matcher, _, hcompile, by decide, hfound, Nat.zero_lt_one, ?_⟩
  intro turns
  induction turns with
  | zero => rfl
  | succ turns ih =>
    rw [Matcher.walk?, hfound]
    have hresume : Matcher.resume? ['a'] ⟨⟨0, 1⟩, []⟩ = some 1 := by rfl
    have hbytes : Text.byteLength ['a'] = 1 := by rfl
    simp [hresume, hbytes, ih]

end RegexGateway
