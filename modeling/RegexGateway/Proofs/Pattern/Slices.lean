import RegexGateway.Proofs.Backtrack.Subject
import RegexGateway.Proofs.Pattern.Replace

namespace RegexGateway

namespace Text

def slice? (text : List Char) (span : Span) : Option (List Char) :=
  if span.start ≤ span.stop ∧ isBoundary text span.start ∧ isBoundary text span.stop then
    some (slice text span)
  else none

def takeBytes? (text : List Char) (n : Nat) : Option (List Char) :=
  if isBoundary text n then some (takeBytes text n) else none

def dropBytes? (text : List Char) (n : Nat) : Option (List Char) :=
  if isBoundary text n then some (dropBytes text n) else none

end Text

theorem Span.Cuts.slice? {s : Span} {text : List Char} (h : s.Cuts text) :
    Text.slice? text s = some (Text.slice text s) :=
  if_pos ⟨h.start_le_stop, h.start_boundary, h.stop_boundary⟩

theorem mapM_eq_some {α β : Type} {f : α → Option β} {g : α → β} {items : List α}
    (h : ∀ a ∈ items, f a = some (g a)) : items.mapM f = some (items.map g) := by
  induction items with
  | nil => rfl
  | cons a rest ih =>
    obtain ⟨ha, hrest⟩ := List.forall_mem_cons.1 h
    simp [List.mapM_cons, ha, ih hrest]

namespace CharCursor

def seek? (cursor : CharCursor) (text : List Char) (byte : Nat) : Option CharCursor := do
  let origin := if byte < cursor.byte then start else cursor
  return ⟨byte, origin.chars + (← Text.slice? text ⟨origin.byte, byte⟩).length⟩

theorem seek?_eq {cursor : CharCursor} {text : List Char} {byte : Nat}
    (hcursor : Text.isBoundary text cursor.byte) (hbyte : Text.isBoundary text byte) :
    cursor.seek? text byte = some (cursor.seek text byte) := by
  have hcuts : (⟨(if byte < cursor.byte then start else cursor).byte, byte⟩ : Span).Cuts text := by
    split
    · exact ⟨Nat.zero_le byte, Text.isBoundary_zero text, hbyte⟩
    · rename_i hle
      exact ⟨Nat.not_lt.1 hle, hcursor, hbyte⟩
  simp only [seek?, seek, hcuts.slice?, Option.pure_def, Option.bind_eq_bind, Option.bind_some]

end CharCursor

namespace Template

def Context.group? (context : Context) (index : Nat) : Option (List Char) :=
  match context.groups[index]? with
  | some (some span) => Text.slice? context.text span
  | _ => some []

def Part.expand? (context : Context) : Part → Option (List Char)
  | .literal text => some text
  | .whole => Text.slice? context.text context.span
  | .before => Text.takeBytes? context.text context.span.start
  | .after => Text.dropBytes? context.text context.span.stop
  | .number 0 => some []
  | .number (n + 1) => context.group? n
  | .name word =>
    match context.names.findIdx? (· = some (String.ofList word)) with
    | some index => context.group? index
    | none => some []

def expand? (template : Template) (context : Context) : Option (List Char) := do
  return (← template.mapM (Part.expand? context)).flatten

end Template

namespace Match

def parts? (m : Match) (names : List (Option String)) (text : List Char) : Option Groups := do
  let captured ← m.groups.mapM fun g => g.mapM (Text.slice? text)
  return (captured.zipIdx 1).map (fun (t, n) => (toString n, t)) ++
    (names.zip captured).filterMap fun (name, t) => name.map fun s => (s, t)

def occurrences? (names : List (Option String)) (text : List Char) :
    CharCursor → List Match → Option (List Occurrence)
  | _, [] => some []
  | cursor, m :: rest => do
    let parts ← m.parts? names text
    let whole ← Text.slice? text m.span
    let cursor ← cursor.seek? text m.span.start
    return ⟨whole, parts, cursor.chars⟩ :: (← occurrences? names text cursor rest)

def splice? (template : Template) (names : List (Option String)) (text : List Char) :
    Nat → List Match → Option (List Char)
  | copied, [] => Text.dropBytes? text copied
  | copied, m :: rest => do
    let kept ← Text.slice? text ⟨copied, m.span.start⟩
    let replaced ← template.expand? ⟨text, m.span, m.groups, names⟩
    return kept ++ replaced ++ (← splice? template names text m.span.stop rest)

variable {m : Match} {text : List Char} {count : Nat}

theorem Cuts.group? (h : m.Cuts text count) (names : List (Option String)) (index : Nat) :
    (⟨text, m.span, m.groups, names⟩ : Template.Context).group? index =
      some ((⟨text, m.span, m.groups, names⟩ : Template.Context).group index) := by
  simp only [Template.Context.group?, Template.Context.group]
  cases hgroup : m.groups[index]? with
  | none => rfl
  | some g =>
    cases g with
    | none => rfl
    | some span => exact (h.groups span (List.mem_of_getElem? hgroup)).slice?

theorem Cuts.expand? (h : m.Cuts text count) (template : Template)
    (names : List (Option String)) :
    template.expand? ⟨text, m.span, m.groups, names⟩ =
      some (template.expand ⟨text, m.span, m.groups, names⟩) := by
  have hpart : ∀ part ∈ template,
      Template.Part.expand? ⟨text, m.span, m.groups, names⟩ part =
        some (Template.Part.expand ⟨text, m.span, m.groups, names⟩ part) := by
    intro part _
    cases part with
    | literal => rfl
    | whole => exact h.span.slice?
    | before => exact if_pos h.span.start_boundary
    | after => exact if_pos h.span.stop_boundary
    | number n =>
      cases n with
      | zero => rfl
      | succ n => exact h.group? names n
    | name word =>
      simp only [Template.Part.expand?, Template.Part.expand]
      cases names.findIdx? (· = some (String.ofList word)) with
      | none => rfl
      | some index => exact h.group? names index
  simp only [Template.expand?, mapM_eq_some hpart, Template.expand, List.flatMap_def,
    Option.pure_def, Option.bind_eq_bind, Option.bind_some]

theorem Cuts.parts? (h : m.Cuts text count) (names : List (Option String)) :
    m.parts? names text = some (m.parts names text) := by
  have hcaptured : ∀ g ∈ m.groups, g.mapM (Text.slice? text) = some (g.map (Text.slice text)) := by
    intro g hg
    cases g with
    | none => rfl
    | some span =>
      change some <$> Text.slice? text span = some (some (Text.slice text span))
      rw [(h.groups span hg).slice?]
      rfl
  simp only [Match.parts?, mapM_eq_some hcaptured, Match.parts, Option.pure_def,
    Option.bind_eq_bind, Option.bind_some]

theorem occurrences?_eq (names : List (Option String)) (cursor : CharCursor) {found : List Match}
    (hcursor : Text.isBoundary text cursor.byte) (hfound : ∀ m ∈ found, m.Cuts text count) :
    occurrences? names text cursor found = some (occurrences names text cursor found) := by
  induction found generalizing cursor with
  | nil => rfl
  | cons m rest ih =>
    obtain ⟨hm, hrest⟩ := List.forall_mem_cons.1 hfound
    have hstart := hm.span.start_boundary
    simp only [occurrences?, occurrences, hm.parts? names, hm.span.slice?,
      CharCursor.seek?_eq hcursor hstart, Option.pure_def, Option.bind_eq_bind, Option.bind_some]
    rw [ih _ hstart hrest]
    rfl

theorem splice?_eq (template : Template) (names : List (Option String)) {copied : Nat}
    {found : List Match} (hcopied : Text.isBoundary text copied)
    (hfound : ∀ m ∈ found, m.Cuts text count) (hlies : ∀ m ∈ found, copied ≤ m.span.start)
    (hordered : found.Pairwise Precedes) :
    splice? template names text copied found = some (splice template names text copied found) := by
  induction found generalizing copied with
  | nil => exact if_pos hcopied
  | cons m rest ih =>
    obtain ⟨hm, hrest⟩ := List.forall_mem_cons.1 hfound
    obtain ⟨hprecedes, hordered⟩ := List.pairwise_cons.1 hordered
    have hkept : (⟨copied, m.span.start⟩ : Span).Cuts text :=
      ⟨hlies m List.mem_cons_self, hcopied, hm.span.start_boundary⟩
    simp only [splice?, splice, hkept.slice?, hm.expand? template names, Option.pure_def,
      Option.bind_eq_bind, Option.bind_some]
    rw [ih hm.span.stop_boundary hrest (fun m' hm' => (hprecedes m' hm').2) hordered]
    rfl

end Match

namespace Matcher

def resume? (text : List Char) (m : Match) : Option Nat :=
  if m.span.start < m.span.stop then some m.span.stop
  else do
    return m.span.stop + (← Text.dropBytes? text m.span.stop).head?.elim 1 Char.utf8Size

/-- The matches that a scan finds from a byte on, and the fault that it ends with, if any. There is
no answer where the turns do not suffice. -/
def walk? (matcher : Matcher) (anchored firstOnly : Bool) (text : List Char) :
    Nat → Nat → Option (List Match × Option SearchFault)
  | turns, start =>
    if Text.byteLength text < start then some ([], none)
    else match turns with
      | 0 => none
      | turns + 1 =>
        match matcher.find text start with
        | .error e => some ([], some e)
        | .ok none => some ([], none)
        | .ok (some m) =>
          if anchored ∧ m.span.start ≠ start then some ([], none)
          else if firstOnly then some ([m], none)
          else do
            let (found, fault) ← matcher.walk? anchored firstOnly text turns (← resume? text m)
            return (m :: found, fault)

/-- What a matcher finds lies behind the place of the search, and a text can be cut there. -/
def Cutting (matcher : Matcher) : Prop :=
  ∀ text start m, Text.isBoundary text start → matcher.find text start = .ok (some m) →
    m.Cuts text matcher.groupNames.length ∧ start ≤ m.span.start

variable {matcher : Matcher} {text : List Char}

theorem Cutting.lawful (h : matcher.Cutting) : matcher.Lawful := by
  intro text start m hstart hfind
  obtain ⟨⟨hspan, -, -⟩, hle⟩ := h text start m hstart hfind
  exact ⟨hle, hspan.start_le_stop, hspan.start_boundary, hspan.stop_boundary⟩

theorem resume?_eq {m : Match} (hstop : Text.isBoundary text m.span.stop) :
    resume? text m = some (resume text m) := by
  have hafter : Text.dropBytes? text m.span.stop = some (Text.dropBytes text m.span.stop) :=
    if_pos hstop
  simp only [resume?, resume, hafter]
  split <;> rfl

/-- With enough turns, a walk that checks every cut is the one that checks nothing. -/
theorem walk?_eq (hmatcher : matcher.Cutting) (anchored firstOnly : Bool) {turns start : Nat}
    (hstart : Stands text start) (hturns : Text.byteLength text < turns + start) :
    matcher.walk? anchored firstOnly text turns start =
      some (matcher.walkFrom anchored firstOnly text turns start) := by
  induction turns generalizing start with
  | zero =>
    have hpast : Text.byteLength text < start := by omega
    rw [walk?, if_pos hpast, walkFrom_past hpast]
  | succ turns ih =>
    rw [walk?, walkFrom]
    by_cases hpast : Text.byteLength text < start
    · rw [if_pos hpast, if_pos hpast]
    · have hbound := hstart.isBoundary (Nat.not_lt.1 hpast)
      rw [if_neg hpast, if_neg hpast]
      cases hfind : matcher.find text start with
      | error e => rfl
      | ok result =>
        cases result with
        | none => rfl
        | some m =>
          obtain ⟨hcuts, hle⟩ := hmatcher text start m hbound hfind
          obtain ⟨hstands, hlt, -⟩ := resume_spec (hmatcher.lawful text start m hbound hfind)
          have hrest := ih hstands (by omega)
          dsimp only
          by_cases hdetached : anchored ∧ m.span.start ≠ start
          · rw [if_pos hdetached, if_pos hdetached]
          · rw [if_neg hdetached, if_neg hdetached]
            cases firstOnly with
            | true => rfl
            | false => simp [resume?_eq hcuts.span.stop_boundary, hrest]

theorem Cutting.walk_cuts (hmatcher : matcher.Cutting) (anchored firstOnly : Bool)
    (text : List Char) :
    ∀ m ∈ (matcher.walk anchored firstOnly text).1,
      m.Cuts text matcher.groupNames.length := by
  have hnext : ∀ place m, Stands text place → place ≤ Text.byteLength text →
      matcher.find text place = .ok (some m) → Stands text (resume text m) :=
    fun place m hstands hin hfind =>
      (resume_spec (hmatcher.lawful text place m (hstands.isBoundary hin) hfind)).1
  intro m hm
  obtain ⟨place, hstands, hin, hfind⟩ :=
    mem_walkFrom hnext (.inl (Text.isBoundary_zero text)) _ m hm
  exact (hmatcher text place m (hstands.isBoundary hin) hfind).1

end Matcher

namespace CompiledPattern

def execute? (p : CompiledPattern) (text : List Char) :
    Option (Except RunFault (List Occurrence)) := do
  let (found, fault) ← p.matcher.walk? p.anchored (p.scanMode = .first) text
    (Text.byteLength text + 2) 0
  let shown ← Match.occurrences? p.matcher.groupNames text .start found
  return (Matcher.ended shown fault).mapError fun e => ⟨p.id, e⟩

def replaceAll? (p : CompiledPattern) (text : List Char) :
    Option (Except RunFault (List Char)) := do
  let (found, fault) ← p.matcher.walk? p.anchored false text (Text.byteLength text + 2) 0
  let replaced ← Match.splice? p.template p.matcher.groupNames text 0 found
  return (Matcher.ended replaced fault).mapError fun e => ⟨p.id, e⟩

variable {p : CompiledPattern}

theorem walk?_walk (hp : p.matcher.Cutting) (firstOnly : Bool) (text : List Char) :
    p.matcher.walk? p.anchored firstOnly text (Text.byteLength text + 2) 0 =
      some (p.matcher.walk p.anchored firstOnly text) :=
  Matcher.walk?_eq hp p.anchored firstOnly (.inl (Text.isBoundary_zero text)) (by omega)

theorem execute?_eq (hp : p.matcher.Cutting) (text : List Char) :
    p.execute? text = some (p.execute text) := by
  have hcuts := hp.walk_cuts p.anchored (p.scanMode = .first) text
  have hshown := Match.occurrences?_eq p.matcher.groupNames .start (Text.isBoundary_zero text) hcuts
  have hfits : ((p.matcher.walk p.anchored (p.scanMode = .first) text).1.all
      fun m => m.span.Cuts text) = true := by
    simpa using fun m hm => (hcuts m hm).span
  rw [execute?, execute, walk?_walk hp]
  simp only [Option.bind_eq_bind, Option.bind_some, hshown, Option.pure_def, conclude, hfits,
    if_true]

theorem replaceAll?_eq (hp : p.matcher.Cutting) (text : List Char) :
    p.replaceAll? text = some (p.replaceAll text) := by
  have hcuts := hp.walk_cuts p.anchored false text
  obtain ⟨hlies, hordered⟩ := Matcher.walk_lies hp.lawful p.anchored false text
  have hgaps := Match.leavesGaps_of_lies (Text.isBoundary_zero text) hlies hordered
  have hreplaced := Match.splice?_eq p.template p.matcher.groupNames (Text.isBoundary_zero text)
    hcuts (fun m _ => Nat.zero_le m.span.start) hordered
  rw [replaceAll?, replaceAll, walk?_walk hp]
  simp only [Option.bind_eq_bind, Option.bind_some, hreplaced, Option.pure_def, conclude, hgaps,
    if_true]

end CompiledPattern

end RegexGateway
