import RegexGateway.Proofs.Pattern.Execute

namespace RegexGateway

/-- A text from a position on, and what it becomes when each of some occurrences gives way to a text
of its own. Positions count characters. -/
inductive Rewritten : Nat → List (Occurrence × List Char) → List Char → List Char → Prop where
  | rest (position : Nat) (text : List Char) : Rewritten position [] text text
  | next {position : Nat} {o : Occurrence} {changes : List (Occurrence × List Char)}
      {kept new rest out : List Char} (hposition : o.position = position + kept.length)
      (hrest : Rewritten (o.position + o.whole.length) changes rest out) :
      Rewritten position ((o, new) :: changes) (kept ++ o.whole ++ rest) (kept ++ new ++ out)

namespace Rewritten

variable {position : Nat} {changes : List (Occurrence × List Char)} {text out out' : List Char}

theorem unique (h : Rewritten position changes text out)
    (h' : Rewritten position changes text out') : out = out' := by
  induction h generalizing out' with
  | rest =>
    cases h'
    rfl
  | @next position o changes kept new rest out hposition hrest ih =>
    generalize htext : kept ++ o.whole ++ rest = text at h'
    cases h' with
    | @next _ _ _ kept' _ rest' out' hposition' hrest' =>
      have hlength : kept.length = kept'.length := by omega
      rw [List.append_assoc, List.append_assoc] at htext
      obtain ⟨rfl, hbehind⟩ := List.append_inj htext hlength
      obtain rfl := List.append_cancel_left hbehind
      rw [ih hrest']

theorem eq_of_same (h : Rewritten position changes text out)
    (hsame : ∀ change ∈ changes, change.2 = change.1.whole) : out = text := by
  induction h with
  | rest => rfl
  | @next _ o _ _ new _ _ _ _ ih =>
    obtain ⟨hnew, hmore⟩ := List.forall_mem_cons.1 hsame
    obtain rfl : new = o.whole := hnew
    rw [ih hmore]

end Rewritten

namespace Match

theorem leavesGaps_of_lies {text : List Char} {copied : Nat} {found : List Match}
    (hcopied : Text.isBoundary text copied) (hlies : ∀ m ∈ found, m.LiesIn text copied)
    (hordered : found.Pairwise Precedes) : leavesGaps text copied found := by
  induction found generalizing copied with
  | nil => exact hcopied
  | cons m rest ih =>
    obtain ⟨hm, hrest⟩ := List.forall_mem_cons.1 hlies
    obtain ⟨hprecedes, hordered⟩ := List.pairwise_cons.1 hordered
    have hgap : Span.Cuts ⟨copied, m.span.start⟩ text :=
      ⟨hm.start_le, hcopied, hm.start_boundary⟩
    have hbehind : ∀ m' ∈ rest, m'.LiesIn text m.span.stop := by
      intro m' hm'
      exact { hrest m' hm' with start_le := (hprecedes m' hm').2 }
    rw [leavesGaps, decide_eq_true hgap, ih hm.stop_boundary hbehind hordered]
    rfl

theorem splice_rewritten (template : Template) (names : List (Option String)) {text : List Char}
    {copied : Nat} {shown : List Occurrence} {found : List Match}
    (hshown : List.Forall₂ (fun o m => o.Shows text m) shown found)
    (hcopied : Text.isBoundary text copied) (hlies : ∀ m ∈ found, m.LiesIn text copied)
    (hordered : found.Pairwise Precedes) :
    Rewritten (Text.charIndex text copied)
      (shown.zip (found.map fun m => template.expand ⟨text, m.span, m.groups, names⟩))
      (Text.dropBytes text copied) (splice template names text copied found) := by
  induction hshown generalizing copied with
  | nil => exact .rest _ _
  | @cons o m shown found ho _ ih =>
    obtain ⟨hm, hrest⟩ := List.forall_mem_cons.1 hlies
    obtain ⟨hprecedes, hordered⟩ := List.pairwise_cons.1 hordered
    have hkept := Text.dropBytes_eq_slice_append hcopied hm.start_boundary hm.start_le
    have hwhole := Text.dropBytes_eq_slice_append hm.start_boundary hm.stop_boundary
      hm.start_le_stop
    have hposition : o.position = Text.charIndex text copied +
        (Text.slice text ⟨copied, m.span.start⟩).length := by
      rw [ho.position, Text.length_takeBytes,
        Text.charIndex_eq_add hcopied hm.start_boundary hm.start_le]
    have hstop : o.position + o.whole.length = Text.charIndex text m.span.stop := by
      rw [ho.position, Text.length_takeBytes, ho.whole,
        Text.charIndex_eq_add hm.start_boundary hm.stop_boundary hm.start_le_stop]
    have hbehind : ∀ m' ∈ found, m'.LiesIn text m.span.stop := by
      intro m' hm'
      exact { hrest m' hm' with start_le := (hprecedes m' hm').2 }
    rw [hkept, hwhole, ← ho.whole, ← List.append_assoc, splice]
    apply Rewritten.next hposition
    rw [hstop]
    exact ih hm.stop_boundary hbehind hordered

end Match

namespace Matcher

variable {matcher : Matcher} {anchored firstOnly : Bool} {text : List Char}

theorem Loops.ok_or_fault {start : Nat} {calls : List Nat}
    {result : Except SearchFault (List Match)}
    (h : Loops matcher anchored firstOnly text start calls result) :
    (∃ found, result = .ok found) ∨
      ∃ n ∈ calls, ∃ e, matcher.find text n = .error e ∧ result = .error e := by
  induction h with
  | past | none | detached | first => exact .inl ⟨_, rfl⟩
  | @fault start e hin hfind => exact .inr ⟨start, List.mem_cons_self, e, hfind, rfl⟩
  | next hin hfind hattached hall hnext ih =>
    obtain ⟨found, rfl⟩ | ⟨n, hn, e, he, rfl⟩ := ih
    · exact .inl ⟨_, rfl⟩
    · exact .inr ⟨n, List.mem_cons_of_mem _ hn, e, he, rfl⟩

end Matcher

namespace CompiledPattern

variable {p : CompiledPattern} {text : List Char} {found : List Match}

def findAll (p : CompiledPattern) : CompiledPattern := { p with scanMode := .all }

/-- What a pattern puts in the place of matches of a text. -/
def replacements (p : CompiledPattern) (text : List Char) (found : List Match) : List (List Char) :=
  found.map fun m => p.template.expand ⟨text, m.span, m.groups, p.matcher.groupNames⟩

theorem replaceAll_eq_ok {out : List Char} :
    p.replaceAll text = .ok out ↔
      ∃ found, p.scan .all text = .ok found ∧ Match.leavesGaps text 0 found ∧
        out = Match.splice p.template p.matcher.groupNames text 0 found := by
  unfold replaceAll
  simp only [conclude_eq_ok, scan_eq_ok, Matcher.scan_eq_ok_iff]
  constructor
  · rintro ⟨hgaps, hfault, rfl⟩
    exact ⟨_, Prod.ext rfl hfault, hgaps, rfl⟩
  · rintro ⟨found, hwalk, hgaps, rfl⟩
    have hwalk : p.matcher.walk p.anchored false text = (found, none) := hwalk
    simpa [hwalk] using hgaps

/-- With a matcher that keeps its promises, a text can be cut as its matches say. -/
theorem scan_fits (hp : p.matcher.Lawful) (hscan : p.scan .all text = .ok found) :
    (∀ m ∈ found, m.LiesIn text 0) ∧ found.Pairwise Match.Precedes ∧
      Match.leavesGaps text 0 found := by
  have hlies := Matcher.walk_lies hp p.anchored false text
  have hwalk : p.matcher.walk p.anchored false text = (found, none) :=
    Matcher.scan_eq_ok_iff.1 (scan_eq_ok.1 hscan)
  rw [hwalk] at hlies
  exact ⟨hlies.1, hlies.2, Match.leavesGaps_of_lies (Text.isBoundary_zero text) hlies.1 hlies.2⟩

/-- With a matcher that keeps its promises a run reports what its scan finds, or comes to the fault
of the scan. -/
theorem execute_eq_map (hp : p.matcher.Lawful) (text : List Char) :
    p.execute text =
      Match.occurrences p.matcher.groupNames text .start <$> p.scan p.scanMode text := by
  have hlies := (Matcher.walk_lies hp p.anchored (p.scanMode = .first) text).1
  have hcuts : ∀ m ∈ (p.matcher.walk p.anchored (p.scanMode = .first) text).1,
      m.span.Cuts text := fun m hm => (hlies m hm).cuts
  unfold execute scan Matcher.scan
  generalize p.matcher.walk p.anchored (p.scanMode = .first) text = walked at hcuts ⊢
  obtain ⟨found, fault⟩ := walked
  have hfits : (found.all fun m => m.span.Cuts text) = true := by simpa using hcuts
  simp only [conclude, hfits, if_true]
  cases fault <;> rfl

theorem replaceAll_eq_map (hp : p.matcher.Lawful) (text : List Char) :
    p.replaceAll text =
      Match.splice p.template p.matcher.groupNames text 0 <$> p.scan .all text := by
  obtain ⟨hlies, hordered⟩ := Matcher.walk_lies hp p.anchored false text
  have hgaps := Match.leavesGaps_of_lies (Text.isBoundary_zero text) hlies hordered
  have hall : decide (ScanMode.all = .first) = false := rfl
  unfold replaceAll scan Matcher.scan
  rw [hall]
  generalize p.matcher.walk p.anchored false text = walked at hgaps ⊢
  obtain ⟨found, fault⟩ := walked
  change Match.leavesGaps text 0 found = true at hgaps
  simp only [conclude, hgaps, if_true]
  cases fault <;> rfl

theorem replaceAll_of_scan (hp : p.matcher.Lawful) (hscan : p.scan .all text = .ok found) :
    ∃ shown out, p.findAll.execute text = .ok shown ∧
      List.Forall₂ (fun o m => o.Shows text m) shown found ∧ p.replaceAll text = .ok out ∧
      Rewritten 0 (shown.zip (p.replacements text found)) text out := by
  have hzero := Text.isBoundary_zero text
  have hindex : Text.charIndex text 0 = 0 := Text.charIndex_append [] text
  have hdrop : Text.dropBytes text 0 = text := Text.dropBytes_append [] text
  obtain ⟨hlies, hordered, hgaps⟩ := scan_fits hp hscan
  have hshown : List.Forall₂ (fun o m => o.Shows text m)
      (Match.occurrences p.matcher.groupNames text .start found) found :=
    Match.occurrences_shows hzero hindex.symm hlies hordered
  have hrewritten := Match.splice_rewritten p.template p.matcher.groupNames hshown hzero hlies
    hordered
  rw [hindex, hdrop] at hrewritten
  exact ⟨_, _, execute_eq_ok.2 ⟨found, hscan, fun m hm => (hlies m hm).cuts, rfl⟩, hshown,
    replaceAll_eq_ok.2 ⟨found, hscan, hgaps, rfl⟩, hrewritten⟩

theorem replacements_whole (hp : p.template = [.whole]) {shown : List Occurrence}
    (hshown : List.Forall₂ (fun o m => o.Shows text m) shown found) :
    p.replacements text found = shown.map Occurrence.whole := by
  induction hshown with
  | nil => rfl
  | @cons o m shown found ho _ ih =>
    have hexpand : p.template.expand ⟨text, m.span, m.groups, p.matcher.groupNames⟩ = o.whole := by
      simp [hp, ho.whole, Template.expand, Template.Part.expand]
    rw [List.map_cons, ← ih, ← hexpand]
    rfl

theorem replaceAll_whole (hp : p.matcher.Lawful) (htemplate : p.template = [.whole])
    (hscan : p.scan .all text = .ok found) : p.replaceAll text = .ok text := by
  obtain ⟨shown, out, -, hshown, hout, hrewritten⟩ := replaceAll_of_scan hp hscan
  rw [replacements_whole htemplate hshown] at hrewritten
  have hsame : ∀ change ∈ shown.zip (shown.map Occurrence.whole), change.2 = change.1.whole := by
    rw [← List.map_prod_left_eq_zip]
    simp
  rw [hout, hrewritten.eq_of_same hsame]

/-- A text with its matches replaced is the text in which each of the occurrences that a run reports
when it reports all gives way to what the template makes of its match, and nothing else changes. So
a text without a match is kept, as is each text by the template that stands for the match. There is
no such text only if a search comes to a fault, and then the run comes to the same one. -/
theorem replaceAll_rewrites (p : CompiledPattern) (hp : p.matcher.Lawful) (text : List Char) :
    (∃ start e, Text.isBoundary text start ∧ p.matcher.find text start = .error e ∧
      p.findAll.execute text = .error ⟨p.id, e⟩ ∧ p.replaceAll text = .error ⟨p.id, e⟩) ∨
    ∃ found shown out,
      p.scan .all text = .ok found ∧ p.findAll.execute text = .ok shown ∧
      List.Forall₂ (fun o m => o.Shows text m) shown found ∧
      p.replaceAll text = .ok out ∧
      (∀ out', Rewritten 0 (shown.zip (p.replacements text found)) text out' ↔ out' = out) ∧
      (shown = [] → out = text) ∧
      ∃ whole, Template.parse ['$', '&'] = .ok whole ∧
        { p with template := whole }.replaceAll text = .ok text := by
  obtain ⟨calls, hloops⟩ := Matcher.loops_scan hp p.anchored false text
  have hcalls := hloops.isBoundary hp (.inl (Text.isBoundary_zero text))
  obtain ⟨found, hscan⟩ | ⟨start, hstart, e, hfind, hfault⟩ := hloops.ok_or_fault
  · right
    have hfound : p.scan .all text = .ok found := scan_eq_ok.2 hscan
    obtain ⟨shown, out, hexecute, hshown, hout, hrewritten⟩ := replaceAll_of_scan hp hfound
    refine ⟨found, shown, out, hfound, hexecute, hshown, hout, ?_, ?_, [.whole], rfl, ?_⟩
    · intro out'
      constructor
      · exact fun h => h.unique hrewritten
      · rintro rfl
        exact hrewritten
    · rintro rfl
      cases hrewritten
      rfl
    · exact replaceAll_whole (p := { p with template := [.whole] }) hp rfl hfound
  · have hscan : p.scan .all text = .error ⟨p.id, e⟩ := by
      show (p.matcher.scan p.anchored false text).mapError _ = _
      rw [hfault]
      rfl
    have hexecute : p.findAll.execute text = .error ⟨p.id, e⟩ :=
      (execute_eq_map (p := p.findAll) hp text).trans (map_eq_error.2 hscan)
    have hreplace : p.replaceAll text = .error ⟨p.id, e⟩ :=
      (replaceAll_eq_map hp text).trans (map_eq_error.2 hscan)
    exact .inl ⟨start, e, hcalls start hstart, hfind, hexecute, hreplace⟩

def bracketA : CompiledPattern :=
  ⟨1, Literal.matcher ['a'], [.literal ['['], .whole, .literal [']']], .first, false, [],
    .symmetric '/'⟩

theorem replaceAll_rewrites_bracketA :
    bracketA.matcher.Lawful ∧
    bracketA.replaceAll ['é', 'a', 'b', 'a'] = .ok ['é', '[', 'a', ']', 'b', '[', 'a', ']'] ∧
    Rewritten 0 [(⟨['a'], [], 1⟩, ['[', 'a', ']']), (⟨['a'], [], 3⟩, ['[', 'a', ']'])]
      ['é', 'a', 'b', 'a'] ['é', '[', 'a', ']', 'b', '[', 'a', ']'] := by
  have hlawful : bracketA.matcher.Lawful := Literal.matcher_lawful ['a']
  have hout : bracketA.replaceAll ['é', 'a', 'b', 'a'] =
      .ok ['é', '[', 'a', ']', 'b', '[', 'a', ']'] := by rfl
  have hshown : bracketA.findAll.execute ['é', 'a', 'b', 'a'] =
      .ok [⟨['a'], [], 1⟩, ⟨['a'], [], 3⟩] := by rfl
  have hfound : bracketA.scan .all ['é', 'a', 'b', 'a'] =
      .ok [⟨⟨2, 3⟩, []⟩, ⟨⟨4, 5⟩, []⟩] := by rfl
  obtain ⟨_, e, -, -, -, hfault⟩ |
      ⟨found, shown, out, hfound', hshown', -, hout', hrewritten, -⟩ :=
    bracketA.replaceAll_rewrites hlawful ['é', 'a', 'b', 'a']
  · simp [hout] at hfault
  · obtain rfl := Except.ok.inj (hfound.symm.trans hfound')
    obtain rfl := Except.ok.inj (hshown.symm.trans hshown')
    obtain rfl := Except.ok.inj (hout.symm.trans hout')
    exact ⟨hlawful, hout, (hrewritten _).2 rfl⟩

end CompiledPattern

end RegexGateway
