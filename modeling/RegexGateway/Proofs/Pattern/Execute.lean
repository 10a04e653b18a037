import Mathlib.Data.List.Forall2
import RegexGateway.Proofs.Dialect.Literal
import RegexGateway.Proofs.Except

namespace RegexGateway

/-- An occurrence shows a match: it has the text of the match, under the number of characters before
it. -/
structure Occurrence.Shows (o : Occurrence) (text : List Char) (m : Match) : Prop where
  whole : o.whole = Text.slice text m.span
  position : o.position = (Text.takeBytes text m.span.start).length
  read_back : (text.drop o.position).take o.whole.length = o.whole

theorem CharCursor.seek_chars {cursor : CharCursor} {text : List Char} {byte : Nat}
    (hcursor : Text.isBoundary text cursor.byte)
    (hchars : cursor.chars = Text.charIndex text cursor.byte) (hbyte : Text.isBoundary text byte) :
    (cursor.seek text byte).chars = Text.charIndex text byte := by
  simp only [seek]
  split
  · -- Behind the offset nothing is known, so the text is counted from its start.
    have hstart := Text.isBoundary_zero text
    have hzero : Text.charIndex text 0 = 0 := Text.charIndex_append [] text
    rw [Text.charIndex_eq_add hstart hbyte (Nat.zero_le byte), hzero]
    rfl
  · rename_i hle
    rw [Text.charIndex_eq_add hcursor hbyte (Nat.not_lt.1 hle), hchars]

namespace Match

theorem LiesIn.shows {m : Match} {text : List Char} {start : Nat} (h : m.LiesIn text start)
    (parts : Groups) :
    Occurrence.Shows ⟨Text.slice text m.span, parts, Text.charIndex text m.span.start⟩ text m := by
  obtain ⟨before, middle, after, rfl, hstart, hstop⟩ :=
    Text.isBoundary_pair h.start_boundary h.stop_boundary h.start_le_stop
  have hslice := Text.slice_append before middle after
  rw [hstart, hstop] at hslice
  have hindex : Text.charIndex (before ++ middle ++ after) m.span.start = before.length := by
    rw [← hstart, List.append_assoc, Text.charIndex_append]
  have htake : Text.takeBytes (before ++ middle ++ after) m.span.start = before := by
    rw [← hstart, List.append_assoc, Text.takeBytes_append]
  refine ⟨rfl, by rw [hindex, htake], ?_⟩
  simp only [hindex]
  rw [hslice, List.append_assoc, List.drop_left, List.take_left]

theorem occurrences_shows {names : List (Option String)} {text : List Char} {cursor : CharCursor}
    {found : List Match} (hcursor : Text.isBoundary text cursor.byte)
    (hchars : cursor.chars = Text.charIndex text cursor.byte)
    (hlies : ∀ m ∈ found, m.LiesIn text cursor.byte) (hordered : found.Pairwise Precedes) :
    List.Forall₂ (fun o m => o.Shows text m) (occurrences names text cursor found) found := by
  induction found generalizing cursor with
  | nil => exact .nil
  | cons m rest ih =>
    obtain ⟨hm, hrest⟩ := List.forall_mem_cons.1 hlies
    obtain ⟨hbefore, hordered⟩ := List.pairwise_cons.1 hordered
    have hseek := CharCursor.seek_chars hcursor hchars hm.start_boundary
    have hbehind : ∀ m' ∈ rest, m'.LiesIn text m.span.start := by
      intro m' hm'
      exact { hrest m' hm' with start_le := Nat.le_of_lt (hbefore m' hm').1 }
    apply List.Forall₂.cons _ (ih hm.start_boundary hseek hbehind hordered)
    simp only [hseek]
    exact hm.shows _

theorem occurrences_take (names : List (Option String)) (text : List Char) (cursor : CharCursor)
    (found : List Match) (n : Nat) :
    occurrences names text cursor (found.take n) =
      (occurrences names text cursor found).take n := by
  induction found generalizing cursor n with
  | nil => simp [occurrences]
  | cons m rest ih =>
    cases n with
    | zero => simp [occurrences]
    | succ n => simp [occurrences, ih]

theorem occurrences_take_one (names : List (Option String)) (text : List Char)
    (cursor : CharCursor) (found : List Match) :
    occurrences names text cursor (found.take 1) =
      (occurrences names text cursor found).take 1 :=
  occurrences_take names text cursor found 1

end Match

theorem Matcher.walk_first (matcher : Matcher) (anchored : Bool) (text : List Char) :
    matcher.walk anchored true text =
      ((matcher.walk anchored false text).1.take 1,
        if (matcher.walk anchored false text).1 = [] then (matcher.walk anchored false text).2
        else none) := by
  have hin : ¬ Text.byteLength text < 0 := by omega
  simp only [walk, walkFrom, if_neg hin]
  cases matcher.find text 0 with
  | error e => rfl
  | ok result =>
    cases result with
    | none => rfl
    | some m =>
      by_cases hdetached : anchored = true ∧ m.span.start ≠ 0
      · simp [hdetached]
      · simp [hdetached]

theorem Matcher.scan_take_one {matcher : Matcher} {anchored : Bool} {text : List Char}
    {all : List Match} (h : matcher.scan anchored false text = .ok all) :
    matcher.scan anchored true text = .ok (all.take 1) := by
  rw [scan_eq_ok_iff] at h ⊢
  simp [walk_first, h]

theorem Match.LiesIn.cuts {m : Match} {text : List Char} {start : Nat} (h : m.LiesIn text start) :
    m.span.Cuts text :=
  ⟨h.start_le_stop, h.start_boundary, h.stop_boundary⟩

namespace CompiledPattern

theorem scan_eq_ok {p : CompiledPattern} {mode : ScanMode} {text : List Char}
    {found : List Match} :
    p.scan mode text = .ok found ↔ p.matcher.scan p.anchored (mode = .first) text = .ok found := by
  unfold scan
  cases p.matcher.scan p.anchored (mode = .first) text <;> simp

theorem conclude_eq_ok {α : Type} {p : CompiledPattern} {fits : Bool} {made result : α}
    {fault : Option SearchFault} :
    p.conclude fits made fault = .ok result ↔ fits ∧ fault = none ∧ result = made := by
  unfold conclude
  cases fits <;> cases fault <;> simp [Matcher.ended, eq_comm]

theorem execute_eq_ok {p : CompiledPattern} {text : List Char} {shown : List Occurrence} :
    p.execute text = .ok shown ↔
      ∃ found, p.scan p.scanMode text = .ok found ∧ (∀ m ∈ found, m.span.Cuts text) ∧
        shown = Match.occurrences p.matcher.groupNames text .start found := by
  unfold execute
  simp only [conclude_eq_ok, scan_eq_ok, Matcher.scan_eq_ok_iff]
  constructor
  · rintro ⟨hfits, hfault, rfl⟩
    exact ⟨_, Prod.ext rfl hfault, by simpa using hfits, rfl⟩
  · rintro ⟨found, hwalk, hcuts, rfl⟩
    simpa [hwalk] using hcuts

end CompiledPattern

end RegexGateway
