import Mathlib.Data.List.Chain
import RegexGateway.Proofs.Dialect.Spans
import RegexGateway.Proofs.Pattern.Replace
import RegexGateway.Table.Builtin

namespace RegexGateway

namespace Match

/-- A match that starts where the one before it stops. -/
def Touches (m m' : Match) : Prop := m'.span.start = m.span.stop

/-- A match that starts where the one before it stops or, if that one is empty, exactly one
character behind. -/
def Follows (text : List Char) (m m' : Match) : Prop :=
  if m.span.start < m.span.stop then m.Touches m'
  else ∃ c ∈ (Text.dropBytes text m.span.stop).head?, m'.span.start = m.span.stop + c.utf8Size

/-- Matches of which the first one starts with the text, and each other one follows the one before
it. -/
structure Gapless (text : List Char) (found : List Match) : Prop where
  head : ∀ m ∈ found.head?, m.span.start = 0
  chain : found.IsChain (Follows text)

/-- The character that the loop passes over behind an empty match, if there is one. -/
def passed (m : Match) (text : List Char) : List Char :=
  if m.span.start < m.span.stop then [] else (Text.dropBytes text m.span.stop).take 1

/-- Matches that start where the loop searches for them, the first one at a byte. -/
def Resumes (text : List Char) : Nat → List Match → Prop
  | _, [] => True
  | start, m :: rest => m.span.start = start ∧ Resumes text (Matcher.resume text m) rest

/-- The matches up to the first one that starts later than the search for it. -/
def leading (text : List Char) : Nat → List Match → List Match
  | _, [] => []
  | start, m :: rest =>
    if m.span.start = start then m :: leading text (Matcher.resume text m) rest else []

variable {text : List Char} {m m' : Match} {start start' : Nat} {found all : List Match}

theorem follows_iff (hm : m.LiesIn text start) (hm' : m'.LiesIn text start') :
    m.Follows text m' ↔ m'.span.start = Matcher.resume text m := by
  unfold Follows Matcher.resume
  split
  · exact Iff.rfl
  · obtain ⟨before, after, rfl, hstop⟩ := Text.isBoundary_iff.1 hm.stop_boundary
    rw [← hstop, Text.dropBytes_append]
    cases after with
    | nil =>
      -- No match starts behind the end.
      have hle := Text.isBoundary_le hm'.start_boundary
      rw [List.append_nil] at hle
      have hne : m'.span.start ≠ Text.byteLength before + 1 := by omega
      simpa using hne
    | cons c after => simp

theorem resumes_iff (hlies : ∀ m ∈ found, m.LiesIn text 0) :
    Resumes text start found ↔
      (∀ m ∈ found.head?, m.span.start = start) ∧ found.IsChain (Follows text) := by
  induction found generalizing start with
  | nil => simp [Resumes]
  | cons m rest ih =>
    obtain ⟨hm, hrest⟩ := List.forall_mem_cons.1 hlies
    have hnext : (∀ m' ∈ rest.head?, m'.span.start = Matcher.resume text m) ↔
        ∀ m' ∈ rest.head?, m.Follows text m' := by
      apply forall₂_congr
      intro m' hm'
      exact (follows_iff hm (hrest m' (List.mem_of_mem_head? hm'))).symm
    rw [Resumes, ih hrest, hnext, List.isChain_cons]
    simp

theorem resumes_iff_prefix (hinitial : found <+: all) :
    Resumes text start found ↔ found <+: leading text start all := by
  induction all generalizing found start with
  | nil =>
    obtain rfl := List.prefix_nil.1 hinitial
    simp [Resumes, leading]
  | cons m rest ih =>
    cases found with
    | nil => simp [Resumes]
    | cons m' found =>
      obtain ⟨rfl, hfound⟩ := List.cons_prefix_cons.1 hinitial
      by_cases hstart : m'.span.start = start
      · simp [Resumes, leading, hstart, ih hfound]
      · simp [Resumes, leading, hstart]

theorem leading_prefix (text : List Char) (start : Nat) (all : List Match) :
    leading text start all <+: all := by
  induction all generalizing start with
  | nil => exact List.prefix_rfl
  | cons m rest ih =>
    rw [leading]
    split
    · exact List.cons_prefix_cons.2 ⟨rfl, ih _⟩
    · exact List.nil_prefix

theorem gapless_iff (hlies : ∀ m ∈ found, m.LiesIn text 0) :
    Gapless text found ↔ Resumes text 0 found := by
  rw [resumes_iff hlies]
  exact ⟨fun h => ⟨h.head, h.chain⟩, fun h => ⟨h.1, h.2⟩⟩

/-- Matches without a gap touch each other unless there is one behind an empty one. -/
theorem isChain_touches_iff (h : found.IsChain (Follows text)) :
    found.IsChain Touches ↔ ∀ m ∈ found.dropLast, m.span.start < m.span.stop := by
  induction h with
  | nil => simp
  | singleton m => simp
  | @cons_cons m m' rest hfollows _ ih =>
    have hpair : m.Touches m' ↔ m.span.start < m.span.stop := by
      unfold Follows at hfollows
      split at hfollows
      · rename_i hlt
        exact iff_of_true hfollows hlt
      · rename_i hempty
        obtain ⟨c, -, hstart⟩ := hfollows
        have hpos := c.utf8Size_pos
        refine iff_of_false ?_ hempty
        unfold Touches
        omega
    rw [List.isChain_cons_cons, hpair, ih, List.dropLast_cons_cons, List.forall_mem_cons]

theorem dropBytes_stop (hm : m.LiesIn text start) :
    Text.dropBytes text m.span.stop =
      m.passed text ++ Text.dropBytes text (Matcher.resume text m) := by
  unfold passed Matcher.resume
  split
  · rfl
  · obtain ⟨before, after, rfl, hstop⟩ := Text.isBoundary_iff.1 hm.stop_boundary
    rw [← hstop, Text.dropBytes_append]
    cases after with
    | nil => simp [Text.dropBytes_of_le]
    | cons c after =>
      have hnext := Text.dropBytes_append (before ++ [c]) after
      simp only [Text.byteLength_append, Text.byteLength_cons, Text.byteLength_nil, Nat.add_zero,
        List.append_assoc, List.cons_append, List.nil_append] at hnext
      simp [hnext]

theorem splice_stop (template : Template) (names : List (Option String))
    (hm : m.LiesIn text start) (hfound : ∀ m' ∈ found, m'.LiesIn text m.span.stop)
    (hresumes : Resumes text (Matcher.resume text m) found) :
    splice template names text m.span.stop found =
      m.passed text ++ splice template names text (Matcher.resume text m) found := by
  cases found with
  | nil => exact dropBytes_stop hm
  | cons m' found =>
    obtain ⟨hm', -⟩ := List.forall_mem_cons.1 hfound
    have hbetween := Text.dropBytes_eq_slice_append hm.stop_boundary hm'.start_boundary hm'.start_le
    have hpassed := dropBytes_stop hm
    rw [← hresumes.1, hbetween] at hpassed
    simp only [splice, ← hresumes.1, List.append_cancel_right hpassed, Text.slice_self,
      List.nil_append, List.append_assoc]

/-- Where no match is missing between two others, they give way one after the other, and of the text
up to the end of the last one only the characters that the loop passes over are kept. -/
theorem splice_resumes (template : Template) (names : List (Option String))
    (hlies : ∀ m ∈ found, m.LiesIn text 0) (hordered : found.Pairwise Precedes)
    (hresumes : Resumes text start found) :
    ∃ rest,
      Text.dropBytes text start =
        found.flatMap (fun m => Text.slice text m.span ++ m.passed text) ++ rest ∧
      splice template names text start found =
        found.flatMap (fun m => template.expand ⟨text, m.span, m.groups, names⟩ ++ m.passed text) ++
          rest := by
  induction found generalizing start with
  | nil => exact ⟨Text.dropBytes text start, rfl, rfl⟩
  | cons m found ih =>
    obtain ⟨hm, hfound⟩ := List.forall_mem_cons.1 hlies
    obtain ⟨hprecedes, hordered⟩ := List.pairwise_cons.1 hordered
    obtain ⟨rfl, hresumes⟩ := hresumes
    obtain ⟨rest, htext, hsplice⟩ := ih hfound hordered hresumes
    have hbehind : ∀ m' ∈ found, m'.LiesIn text m.span.stop := by
      intro m' hm'
      exact { hfound m' hm' with start_le := (hprecedes m' hm').2 }
    have hwhole := Text.dropBytes_eq_slice_append hm.start_boundary hm.stop_boundary
      hm.start_le_stop
    refine ⟨rest, ?_, ?_⟩
    · rw [hwhole, dropBytes_stop hm, htext]
      simp
    · rw [splice, Text.slice_self, splice_stop template names hm hbehind hresumes, hsplice]
      simp

end Match

theorem flatMap_append_last {α β : Type} {f g : α → List β} {items : List α}
    (h : ∀ a ∈ items.dropLast, g a = []) :
    items.flatMap (fun a => f a ++ g a) = items.flatMap f ++ items.getLast?.elim [] g := by
  induction items with
  | nil => rfl
  | cons a rest ih =>
    cases rest with
    | nil => simp
    | cons b rest =>
      rw [List.dropLast_cons_cons] at h
      obtain ⟨ha, hrest⟩ := List.forall_mem_cons.1 h
      rw [List.flatMap_cons, ih hrest, ha, List.flatMap_cons (f := f), List.getLast?_cons_cons]
      simp

theorem Matcher.walkFrom_anchored {matcher : Matcher} {text : List Char} {turns start : Nat}
    {all : List Match} (h : matcher.walkFrom false false text turns start = (all, none)) :
    matcher.walkFrom true false text turns start = (Match.leading text start all, none) := by
  induction turns generalizing start all with
  | zero =>
    rw [walkFrom] at h
    split at h
    · rename_i hpast
      obtain ⟨rfl, -⟩ := Prod.mk.inj h
      exact walkFrom_past hpast 0
    · simp at h
  | succ turns ih =>
    by_cases hpast : Text.byteLength text < start
    · rw [walkFrom_past hpast] at h ⊢
      obtain ⟨rfl, -⟩ := Prod.mk.inj h
      rfl
    · rw [walkFrom, if_neg hpast] at h ⊢
      cases hfind : matcher.find text start with
      | error e => simp [hfind] at h
      | ok result =>
        rw [hfind] at h
        cases result with
        | none =>
          obtain ⟨rfl, -⟩ := Prod.mk.inj h
          rfl
        | some m =>
          simp only [Bool.false_eq_true, false_and, if_false, Prod.mk.injEq] at h
          obtain ⟨rfl, hfault⟩ := h
          have hrest := ih (Prod.ext rfl hfault)
          by_cases hstart : m.span.start = start
          · simp [Match.leading, hstart, hrest]
          · simp [Match.leading, hstart]

theorem Matcher.Loops.resumes {matcher : Matcher} {firstOnly : Bool} {text : List Char}
    {start : Nat} {calls : List Nat} {result : Except SearchFault (List Match)} {found : List Match}
    (h : Loops matcher true firstOnly text start calls result) (hfound : result = .ok found) :
    Match.Resumes text start found := by
  induction h generalizing found with
  | past | none | detached =>
    obtain rfl := Except.ok.inj hfound
    trivial
  | fault => contradiction
  | first _ _ hattached =>
    obtain rfl := Except.ok.inj hfound
    exact ⟨by simpa using hattached, trivial⟩
  | @next start m calls result _ _ hattached _ _ ih =>
    cases result with
    | error e => contradiction
    | ok rest =>
      obtain rfl := Except.ok.inj hfound
      exact ⟨by simpa using hattached, ih rfl⟩

namespace CompiledPattern

variable {p : CompiledPattern} {text : List Char} {found all : List Match}

def free (p : CompiledPattern) : CompiledPattern := { p with anchored := false }

def replacement (p : CompiledPattern) (text : List Char) (m : Match) : List Char :=
  p.template.expand ⟨text, m.span, m.groups, p.matcher.groupNames⟩

theorem scan_anchored (hanchored : p.anchored) (hall : p.free.scan .all text = .ok all) :
    p.scan .all text = .ok (Match.leading text 0 all) := by
  have hfree : p.matcher.walk false false text = (all, none) :=
    Matcher.scan_eq_ok_iff.1 (scan_eq_ok.1 hall)
  apply scan_eq_ok.2
  rw [hanchored]
  exact Matcher.scan_eq_ok_iff.2 (Matcher.walkFrom_anchored hfree)

theorem scan_resumes (hp : p.matcher.Lawful) (hanchored : p.anchored)
    (hscan : p.scan .all text = .ok found) : Match.Resumes text 0 found := by
  obtain ⟨calls, hloops⟩ := Matcher.loops_scan hp true false text
  have hfound := scan_eq_ok.1 hscan
  rw [hanchored] at hfound
  exact hloops.resumes hfound

/-- What an anchored pattern finds is a prefix of what it finds without its anchor: the longest one
that has no gap. What it reports is the same prefix of what would be reported. -/
theorem scan_anchored_longest (p : CompiledPattern) (hp : p.matcher.Lawful)
    (hanchored : p.anchored) (text : List Char) (all : List Match)
    (hall : p.free.scan .all text = .ok all) :
    ∃ found shown many,
      p.scan .all text = .ok found ∧ found <+: all ∧ Match.Gapless text found ∧
      (∀ longer, longer <+: all → Match.Gapless text longer → longer <+: found) ∧
      p.findAll.execute text = .ok shown ∧ p.free.findAll.execute text = .ok many ∧
      shown = many.take found.length := by
  obtain ⟨hlies, -⟩ := scan_fits (p := p.free) hp hall
  have hfound := scan_anchored hanchored hall
  have hcuts : ∀ m ∈ all, m.span.Cuts text := fun m hm => (hlies m hm).cuts
  have hinitial := Match.leading_prefix text 0 all
  have hgapless : ∀ longer, longer <+: all →
      (Match.Gapless text longer ↔ longer <+: Match.leading text 0 all) := by
    intro longer hlonger
    rw [Match.gapless_iff fun m hm => hlies m (hlonger.subset hm)]
    exact Match.resumes_iff_prefix hlonger
  refine ⟨_, _, _, hfound, hinitial, (hgapless _ hinitial).2 List.prefix_rfl,
    fun longer hlonger => (hgapless longer hlonger).1,
    execute_eq_ok.2 ⟨_, hfound, fun m hm => hcuts m (hinitial.subset hm), rfl⟩,
    execute_eq_ok.2 ⟨_, hall, hcuts, rfl⟩, ?_⟩
  rw [← Match.occurrences_take]
  exact congrArg _ (List.prefix_iff_eq_take.1 hinitial)

def leadingB : CompiledPattern :=
  ⟨1, Literal.matcher ['b'], [.literal ['X']], .all, true, ['A'], .symmetric '/'⟩

theorem scan_anchored_longest_leadingB :
    leadingB.matcher.Lawful ∧ leadingB.anchored ∧
    leadingB.free.scan .all ['b', 'b', 'a', 'b'] =
      .ok [⟨⟨0, 1⟩, []⟩, ⟨⟨1, 2⟩, []⟩, ⟨⟨3, 4⟩, []⟩] ∧
    leadingB.scan .all ['b', 'b', 'a', 'b'] = .ok [⟨⟨0, 1⟩, []⟩, ⟨⟨1, 2⟩, []⟩] ∧
    Match.Gapless ['b', 'b', 'a', 'b'] [⟨⟨0, 1⟩, []⟩, ⟨⟨1, 2⟩, []⟩] ∧
    ¬ Match.Gapless ['b', 'b', 'a', 'b'] [⟨⟨0, 1⟩, []⟩, ⟨⟨1, 2⟩, []⟩, ⟨⟨3, 4⟩, []⟩] := by
  have hlawful : leadingB.matcher.Lawful := Literal.matcher_lawful ['b']
  have hfree : leadingB.free.scan .all ['b', 'b', 'a', 'b'] =
      .ok [⟨⟨0, 1⟩, []⟩, ⟨⟨1, 2⟩, []⟩, ⟨⟨3, 4⟩, []⟩] := by rfl
  have hscan : leadingB.scan .all ['b', 'b', 'a', 'b'] = .ok [⟨⟨0, 1⟩, []⟩, ⟨⟨1, 2⟩, []⟩] := by rfl
  obtain ⟨found, _, _, hfound, -, hgapless, hlongest, -⟩ :=
    leadingB.scan_anchored_longest hlawful rfl _ _ hfree
  obtain rfl := Except.ok.inj (hscan.symm.trans hfound)
  refine ⟨hlawful, rfl, hfree, hscan, hgapless, fun hall => ?_⟩
  have hlength := (hlongest _ List.prefix_rfl hall).length_le
  contradiction

/-- The matches of an anchored pattern have no gap, so they give way one after the other and the
text behind the last one is kept. They touch each other unless there is one behind an empty one.
Then the start of the text gives way to the replacements alone; else the characters that the loop
passes over stay between them. -/
theorem replaceAll_anchored (p : CompiledPattern) (hp : p.matcher.Lawful) (hanchored : p.anchored)
    (text : List Char) (found : List Match) (hscan : p.scan .all text = .ok found) :
    (∃ shown, p.findAll.execute text = .ok shown ∧
      List.Forall₂ (fun o m => o.Shows text m) shown found) ∧
    Match.Gapless text found ∧
    (found.IsChain Match.Touches ↔ ∀ m ∈ found.dropLast, m.span.start < m.span.stop) ∧
    (∃ rest, text = found.flatMap (fun m => Text.slice text m.span ++ m.passed text) ++ rest ∧
      p.replaceAll text =
        .ok (found.flatMap (fun m => p.replacement text m ++ m.passed text) ++ rest)) ∧
    (found.IsChain Match.Touches →
      ∃ rest, text = found.flatMap (fun m => Text.slice text m.span) ++ rest ∧
        p.replaceAll text = .ok (found.flatMap (p.replacement text) ++ rest)) := by
  obtain ⟨hlies, hordered, hgaps⟩ := scan_fits hp hscan
  have hresumes := scan_resumes hp hanchored hscan
  have hgapless := (Match.gapless_iff hlies).2 hresumes
  have htouches := Match.isChain_touches_iff hgapless.chain
  obtain ⟨shown, out, hshown, hshows, hout, -⟩ := replaceAll_of_scan hp hscan
  obtain ⟨rest, htext, hsplice⟩ := Match.splice_resumes p.template p.matcher.groupNames hlies
    hordered hresumes
  have hstart : Text.dropBytes text 0 = text := Text.dropBytes_append [] text
  have hreplaced : p.replaceAll text =
      .ok (found.flatMap (fun m => p.replacement text m ++ m.passed text) ++ rest) := by
    exact replaceAll_eq_ok.2 ⟨found, hscan, hgaps, hsplice.symm⟩
  rw [hstart] at htext
  refine ⟨⟨shown, hshown, hshows⟩, hgapless, htouches, ⟨rest, htext, hreplaced⟩, ?_⟩
  intro hchain
  -- Behind all matches but the last one nothing is passed over.
  have hpassed : ∀ m ∈ found.dropLast, m.passed text = [] :=
    fun m hm => if_pos (htouches.1 hchain m hm)
  rw [flatMap_append_last hpassed, List.append_assoc] at htext hreplaced
  exact ⟨_, htext, hreplaced⟩

theorem replaceAll_anchored_leadingB :
    leadingB.matcher.Lawful ∧ leadingB.anchored ∧
    leadingB.scan .all ['b', 'b', 'a', 'b'] = .ok [⟨⟨0, 1⟩, []⟩, ⟨⟨1, 2⟩, []⟩] ∧
    List.IsChain Match.Touches [⟨⟨0, 1⟩, []⟩, ⟨⟨1, 2⟩, []⟩] ∧
    leadingB.replaceAll ['b', 'b', 'a', 'b'] = .ok ['X', 'X', 'a', 'b'] := by
  have hlawful : leadingB.matcher.Lawful := Literal.matcher_lawful ['b']
  have hscan : leadingB.scan .all ['b', 'b', 'a', 'b'] = .ok [⟨⟨0, 1⟩, []⟩, ⟨⟨1, 2⟩, []⟩] := by rfl
  obtain ⟨-, -, htouches, -, hreplaced⟩ :=
    leadingB.replaceAll_anchored hlawful rfl _ _ hscan
  have hchain := htouches.2 (by decide)
  obtain ⟨rest, htext, hout⟩ := hreplaced hchain
  have hinitial : ['b', 'b'] ++ ['a', 'b'] = ['b', 'b'] ++ rest := htext
  obtain rfl := List.append_cancel_left hinitial
  exact ⟨hlawful, rfl, hscan, hchain, hout⟩

def beforeB : PatternRecord := ⟨1, "(?=b)".toList, ['A'], none, ['X'], false⟩

/-- In the built-in engine for delimited patterns, an anchored pattern goes on behind an empty match
and finds what does not touch it. -/
theorem anchored_passes :
    ∃ caps p,
      Capabilities.ofSpec .pcre = .ok caps ∧
      Runner.compile ⟨caps, caps.defaults, .fancy⟩ beforeB = .ok p ∧
      p.matcher.Lawful ∧ p.anchored ∧
      p.scan .all ['b', 'b', 'a'] = .ok [⟨⟨0, 0⟩, []⟩, ⟨⟨1, 1⟩, []⟩] ∧
      ¬ List.IsChain Match.Touches [⟨⟨0, 0⟩, []⟩, ⟨⟨1, 1⟩, []⟩] ∧
      p.replaceAll ['b', 'b', 'a'] = .ok ['X', 'b', 'X', 'b', 'a'] := by
  have hrun : (Capabilities.ofSpec .pcre).toOption.bind (fun caps =>
      (Runner.compile ⟨caps, caps.defaults, .fancy⟩ beforeB).toOption.map (fun p =>
        (p.modifiers, p.anchored, (p.scan .all ['b', 'b', 'a']).toOption,
          (p.replaceAll ['b', 'b', 'a']).toOption))) =
      some (['A'], true, some [⟨⟨0, 0⟩, []⟩, ⟨⟨1, 1⟩, []⟩], some ['X', 'b', 'X', 'b', 'a']) := by
    decide +kernel
  have hkeeps : Dialect.fancy.keepsBehind beforeB.regex (.ofModifiers ['A']) = false := by
    decide +kernel
  obtain ⟨caps, hcaps, hcompiled⟩ := Option.bind_eq_some_iff.1 hrun
  obtain ⟨p, hp, hparts⟩ := Option.map_eq_some_iff.1 hcompiled
  simp only [Prod.mk.injEq, toOption_eq_some] at hparts
  obtain ⟨hmodifiers, hanchored, hscan, hreplaced⟩ := hparts
  rw [toOption_eq_some] at hcaps hp
  have hmatcher := Runner.compile_matcher hp
  rw [hmodifiers] at hmatcher
  have hcutting : p.matcher.Cutting := by
    intro text start m hstart hfind
    obtain ⟨hcuts, hle⟩ := Dialect.find_cuts (.inr rfl) hmatcher hstart hfind
    exact ⟨hcuts, hle hkeeps⟩
  exact ⟨caps, p, hcaps, hp, hcutting.lawful, hanchored, hscan, by simp [Match.Touches], hreplaced⟩

end CompiledPattern

end RegexGateway
