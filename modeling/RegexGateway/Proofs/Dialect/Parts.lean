import RegexGateway.Proofs.Backtrack.Names
import RegexGateway.Proofs.Dialect.Spans
import RegexGateway.Proofs.Outcome.Groups
import RegexGateway.Proofs.Pattern.Execute
import RegexGateway.Proofs.Regex.Names

namespace RegexGateway

/-- A matcher that finds a span for each name. -/
def Matcher.Labels (matcher : Matcher) : Prop :=
  ∀ text start m, matcher.find text start = .ok (some m) →
    m.groups.length = matcher.groupNames.length

theorem Regex.Program.labels (p : Program) : p.matcher.Labels := by
  intro text start m hfind
  obtain ⟨found, hfound, rfl⟩ := Option.map_eq_some_iff.1 (Except.ok.inj hfind)
  have hsize : Text.charIndex text start ≤ text.toArray.size := by
    simpa using Text.charIndex_le_length text start
  obtain ⟨-, hwithin⟩ := search?_within hsize hfound
  rw [Match.map, List.length_map]
  exact hwithin.groups_length

namespace Backtrack

theorem Machine.search_labels {machine : Machine} {text : List Char} {start : Nat} {m : Match}
    (h : machine.search text start = .ok (some m)) : m.groups.length = machine.groups := by
  obtain ⟨last, -, hfound⟩ := bind_eq_ok.1 h
  obtain ⟨t, -, hm⟩ := Option.bind_eq_some_iff.1 (Except.ok.inj hfound)
  obtain ⟨from', -, hm⟩ := Option.bind_eq_some_iff.1 hm
  obtain ⟨stop, -, hm⟩ := Option.bind_eq_some_iff.1 hm
  obtain rfl := Option.some.inj hm
  simp

theorem compile_labels {pattern : List Char} {matcher : Matcher}
    (h : compile pattern = .ok matcher) : matcher.Labels := by
  obtain ⟨tree, -, hcompiled⟩ := bind_eq_ok.1 h
  obtain ⟨compiled, -, hmatcher⟩ := bind_eq_ok.1 hcompiled
  obtain rfl := Except.ok.inj hmatcher
  have hgroups : (tree.groupNames compiled.groups).length = compiled.groups := by
    simp [Tree.groupNames]
  intro text start m hfind
  refine Eq.trans ?_ hgroups.symm
  cases compiled with
  | easy program => exact program.labels text start m hfind
  | hard machine => exact Machine.search_labels (mapError_eq_ok.1 hfind)

end Backtrack

namespace Dialect

theorem compile_labels {d : Dialect} (hd : d = standard ∨ d = fancy) {pattern : List Char}
    {flags : FlagSet} {matcher : Matcher} (h : d.compile pattern flags = .ok matcher) :
    matcher.Labels := by
  rcases hd with rfl | rfl
  · obtain ⟨program, rfl⟩ := standard_compile h
    exact program.labels
  · exact Backtrack.compile_labels (fancy_compile h)

theorem fancy_compile_of {pattern : List Char} {flags : FlagSet} {matcher : Matcher}
    (hflags : flags.dupNames = false)
    (h : Backtrack.compile (flags.inline ++ pattern) = .ok matcher) :
    fancy.compile pattern flags = .ok matcher := by
  simp [fancy, hflags, h]

theorem standard_clear {pattern : List Char} {flags : FlagSet} {matcher : Matcher}
    (h : standard.compile pattern flags = .ok matcher) : Groups.Clear matcher.groupNames := by
  simp only [standard] at h
  split at h
  · contradiction
  · split at h
    · rename_i program hprogram
      obtain rfl := Except.ok.inj h
      intro key hkey hname
      obtain ⟨i, -, rfl⟩ := List.mem_map.1 hkey
      exact (Regex.compile_named hprogram _ hname).ne_toString (i + 1) rfl
    · contradiction

end Dialect

theorem Matcher.mem_scan {matcher : Matcher} {anchored firstOnly : Bool} {text : List Char}
    {found : List Match} (h : matcher.scan anchored firstOnly text = .ok found) :
    ∀ m ∈ found, ∃ place, matcher.find text place = .ok (some m) := by
  have hwalk := scan_eq_ok_iff.1 h
  have hfound : ∀ m ∈ (matcher.walk anchored firstOnly text).1, ∃ place, True ∧
      place ≤ Text.byteLength text ∧ matcher.find text place = .ok (some m) :=
    mem_walkFrom (P := fun _ => True) (fun _ _ _ _ _ => trivial) trivial _
  rw [hwalk] at hfound
  intro m hm
  obtain ⟨place, -, -, hfind⟩ := hfound m hm
  exact ⟨place, hfind⟩

namespace Match

def texts (m : Match) (text : List Char) : List (Option (List Char)) :=
  m.groups.map fun g => g.map (Text.slice text)

theorem parts_shows {m : Match} {names : List (Option String)} (h : names.reduceOption.Nodup)
    (hlength : m.groups.length = names.length) (text : List Char) :
    (m.parts names text).Shows names (m.texts text) :=
  Groups.shows_texts h (by simpa [texts] using hlength)

theorem forall₂_occurrences {P : Occurrence → Match → Prop} {names : List (Option String)}
    {text : List Char} {found : List Match}
    (h : ∀ m ∈ found, ∀ position, P ⟨Text.slice text m.span, m.parts names text, position⟩ m)
    (cursor : CharCursor) : List.Forall₂ P (occurrences names text cursor found) found := by
  induction found generalizing cursor with
  | nil => exact .nil
  | cons m rest ih =>
    obtain ⟨hm, hrest⟩ := List.forall_mem_cons.1 h
    exact .cons (hm _) (ih hrest _)

end Match

namespace Runner

/-- Each match shows the texts of its groups under their numbers and names. The keys are different
unless a group is named after the number of one, which only the fancy dialect lets happen: the name
is then passed over by a lookup, and the number is lost in an object. -/
theorem execute_parts (r : Runner) (hr : r.dialect = .standard ∨ r.dialect = .fancy)
    {record : PatternRecord} {p : CompiledPattern} (hp : r.compile record = .ok p)
    (hnames : p.matcher.groupNames.reduceOption.Nodup) {text : List Char}
    {shown : List Occurrence} (hrun : p.execute text = .ok shown) :
    (r.dialect = .standard → Groups.Clear p.matcher.groupNames) ∧
    ∃ found, p.scan p.scanMode text = .ok found ∧
      List.Forall₂ (fun o m => m.groups.length = p.matcher.groupNames.length ∧
        o.parts.Shows p.matcher.groupNames (m.texts text)) shown found := by
  have hcompile := compile_matcher hp
  have hlabels := Dialect.compile_labels hr hcompile
  constructor
  · intro hstandard
    rw [hstandard] at hcompile
    exact Dialect.standard_clear hcompile
  · obtain ⟨found, hscan, -, rfl⟩ := CompiledPattern.execute_eq_ok.1 hrun
    refine ⟨found, hscan, ?_⟩
    have hfound := Matcher.mem_scan (CompiledPattern.scan_eq_ok.1 hscan)
    apply Match.forall₂_occurrences
    intro m hm position
    obtain ⟨start, hfind⟩ := hfound m hm
    have hlength := hlabels text start m hfind
    exact ⟨hlength, Match.parts_shows hnames hlength text⟩

def standardWords : Runner := ⟨.words, Capabilities.words.defaults, .standard⟩

def namedA : PatternRecord := ⟨1, "(?<_>a)(b)".toList, [], none, [], false⟩

theorem execute_parts_namedA :
    (standardWords.dialect = .standard ∨ standardWords.dialect = .fancy) ∧
    ∃ p o, standardWords.compile namedA = .ok p ∧ p.matcher.groupNames = [some "_", none] ∧
      p.matcher.groupNames.reduceOption.Nodup ∧ Groups.Clear p.matcher.groupNames ∧
      p.execute ['a', 'b'] = .ok [o] ∧
      o.parts.Shows p.matcher.groupNames [some ['a'], some ['b']] := by
  have hdialect : standardWords.dialect = .standard ∨ standardWords.dialect = .fancy := .inl rfl
  have hrun : (standardWords.compile namedA).toOption.map
      (fun p => (p.matcher.groupNames, (p.scan p.scanMode ['a', 'b']).toOption)) =
        some ([some "_", none], some [⟨⟨0, 2⟩, [some ⟨0, 1⟩, some ⟨1, 2⟩]⟩]) := by
    decide +kernel
  obtain ⟨p, hp, hpair⟩ := Option.map_eq_some_iff.1 hrun
  obtain ⟨hnames, hscan⟩ := Prod.mk.inj hpair
  rw [toOption_eq_some] at hp hscan
  have hnodup : p.matcher.groupNames.reduceOption.Nodup := by
    rw [hnames]
    decide
  have hshown := CompiledPattern.execute_eq_ok.2 ⟨_, hscan, by decide, rfl⟩
  obtain ⟨hclear, found, hfound, hparts⟩ := standardWords.execute_parts hdialect hp hnodup hshown
  obtain rfl := Except.ok.inj (hscan.symm.trans hfound)
  obtain ⟨⟨-, hshows⟩, -⟩ := List.forall₂_cons.1 hparts
  exact ⟨hdialect, p, _, hp, hnames, hnodup, hclear rfl, hshown, hshows⟩

def numberA : PatternRecord := ⟨1, Backtrack.numberName, [], none, [], false⟩

theorem compile_numberA :
    ∃ p, fancyWords.compile numberA = .ok p ∧ p.matcher.groupNames = [some "2", none] ∧
      p.scan p.scanMode ['a', 'b'] = .ok [⟨⟨0, 2⟩, [some ⟨0, 1⟩, some ⟨1, 2⟩]⟩] := by
  obtain ⟨matcher, hmatcher, hnames, hscan⟩ := Backtrack.compile_numberName
  have hmodifiers : fancyWords.capabilities.validateModifiers numberA.modifiers = .ok [] := rfl
  have hdelimiters : fancyWords.delimiters numberA = .ok ⟨'/', '/'⟩ := rfl
  have hregex : fancyWords.dialect.compile numberA.regex (.ofModifiers []) = .ok matcher :=
    Dialect.fancy_compile_of rfl hmatcher
  have htemplate : Template.parse numberA.replacementText = .ok [] := rfl
  refine ⟨_, compile_passed hmodifiers hdelimiters hregex htemplate, hnames, ?_⟩
  exact mapError_eq_ok.2 hscan

/-- The fancy dialect lets a group bear the number of another one, whose text is then under a key
that comes twice, and is lost in an object. -/
theorem numberA_hides :
    ∃ p o, fancyWords.compile numberA = .ok p ∧ p.matcher.groupNames = [some "2", none] ∧
      p.execute ['a', 'b'] = .ok [o] ∧ ¬(o.parts.map Prod.fst).Nodup ∧
      o.parts.get? "2" = some (some ['b']) ∧
      ∃ read, Groups.codec.ofString (Groups.codec.encode o.parts).sorted.compact = .ok read ∧
        read.get? "2" = some (some ['a']) := by
  obtain ⟨p, hp, hnames, hscan⟩ := compile_numberA
  have hshown := CompiledPattern.execute_eq_ok.2 ⟨_, hscan, by decide, rfl⟩
  rw [hnames] at hshown
  obtain ⟨read, hread, hlookup⟩ := Groups.carries_sorted
    (Match.parts ⟨⟨0, 2⟩, [some ⟨0, 1⟩, some ⟨1, 2⟩]⟩ [some "2", none] ['a', 'b'])
  refine ⟨p, _, hp, hnames, hshown, by decide, by decide, read, hread.ofString (by decide), ?_⟩
  rw [hlookup]
  decide

end Runner

end RegexGateway
