import Mathlib.Data.List.Perm.Subperm
import RegexGateway.Pattern.Scan
import RegexGateway.Proofs.Text.Bytes

namespace RegexGateway

/-- A match that a search from `start` on may find: it lies behind `start`, between characters. -/
structure Match.LiesIn (m : Match) (text : List Char) (start : Nat) : Prop where
  start_le : start ≤ m.span.start
  start_le_stop : m.span.start ≤ m.span.stop
  start_boundary : Text.isBoundary text m.span.start
  stop_boundary : Text.isBoundary text m.span.stop

namespace Matcher

/-- What a dialect promises of the searches that start between characters. -/
def Lawful (matcher : Matcher) : Prop :=
  ∀ text start m, Text.isBoundary text start → matcher.find text start = .ok (some m) →
    m.LiesIn text start

/-- The loop of a scan from a byte on, with the places where it searches and its result. A run of
the loop is finite. -/
inductive Loops (matcher : Matcher) (anchored firstOnly : Bool) (text : List Char) :
    Nat → List Nat → Except SearchFault (List Match) → Prop where
  | past {start : Nat} (hpast : Text.byteLength text < start) :
      Loops matcher anchored firstOnly text start [] (.ok [])
  | fault {start : Nat} {e : SearchFault} (hin : start ≤ Text.byteLength text)
      (hfind : matcher.find text start = .error e) :
      Loops matcher anchored firstOnly text start [start] (.error e)
  | none {start : Nat} (hin : start ≤ Text.byteLength text)
      (hfind : matcher.find text start = .ok none) :
      Loops matcher anchored firstOnly text start [start] (.ok [])
  | detached {start : Nat} {m : Match} (hin : start ≤ Text.byteLength text)
      (hfind : matcher.find text start = .ok (some m)) (hanchored : anchored)
      (hstart : m.span.start ≠ start) :
      Loops matcher anchored firstOnly text start [start] (.ok [])
  | first {start : Nat} {m : Match} (hin : start ≤ Text.byteLength text)
      (hfind : matcher.find text start = .ok (some m))
      (hattached : ¬ (anchored ∧ m.span.start ≠ start)) (hfirst : firstOnly) :
      Loops matcher anchored firstOnly text start [start] (.ok [m])
  | next {start : Nat} {m : Match} {calls : List Nat} {result : Except SearchFault (List Match)}
      (hin : start ≤ Text.byteLength text) (hfind : matcher.find text start = .ok (some m))
      (hattached : ¬ (anchored ∧ m.span.start ≠ start)) (hall : firstOnly = false)
      (hnext : Loops matcher anchored firstOnly text (resume text m) calls result) :
      Loops matcher anchored firstOnly text start (start :: calls) (result.map (m :: ·))

variable {matcher : Matcher} {anchored firstOnly : Bool} {text : List Char}

/-- A place where the loop may come to: between characters or behind the end. -/
def Stands (text : List Char) (start : Nat) : Prop :=
  Text.isBoundary text start ∨ Text.byteLength text < start

theorem Stands.isBoundary {start : Nat} (h : Stands text start)
    (hin : start ≤ Text.byteLength text) : Text.isBoundary text start :=
  h.resolve_right (Nat.not_lt.2 hin)

theorem resume_spec {m : Match} {start : Nat} (h : m.LiesIn text start) :
    Stands text (resume text m) ∧ m.span.start < resume text m ∧ m.span.stop ≤ resume text m := by
  unfold resume
  split
  · rename_i hlt
    exact ⟨.inl h.stop_boundary, hlt, Nat.le_refl _⟩
  · have hle := h.start_le_stop
    obtain ⟨before, after, rfl, hstop⟩ := Text.isBoundary_iff.1 h.stop_boundary
    rw [← hstop, Text.dropBytes_append]
    cases after with
    | nil =>
      simp only [List.head?_nil, Option.elim_none]
      exact ⟨.inr (by simp), by omega, by omega⟩
    | cons c after =>
      have hpos := c.utf8Size_pos
      simp only [List.head?_cons, Option.elim_some]
      have hstands : Text.isBoundary (before ++ c :: after)
          (Text.byteLength before + c.utf8Size) :=
        Text.isBoundary_iff.2 ⟨before ++ [c], after, by simp, by simp⟩
      exact ⟨.inl hstands, by omega, by omega⟩

/-- From a place that the loop may come to, it comes to an end. -/
theorem Lawful.loops (hmatcher : matcher.Lawful) {start : Nat} (hstart : Stands text start) :
    ∃ calls result, Loops matcher anchored firstOnly text start calls result := by
  -- The place of the search moves on, and it stops moving behind the end.
  induction hleft : Text.byteLength text + 1 - start using Nat.strongRecOn generalizing start with
  | ind left ih =>
    by_cases hpast : Text.byteLength text < start
    · exact ⟨[], _, .past hpast⟩
    · have hin := Nat.not_lt.1 hpast
      cases hfind : matcher.find text start with
      | error e => exact ⟨[start], _, .fault hin hfind⟩
      | ok found =>
        cases found with
        | none => exact ⟨[start], _, .none hin hfind⟩
        | some m =>
          have hm := hmatcher text start m (hstart.isBoundary hin) hfind
          obtain ⟨hstands, hlt, -⟩ := resume_spec hm
          have hle := hm.start_le
          obtain ⟨calls, result, hnext⟩ := ih _ (by omega) hstands rfl
          by_cases hdetached : anchored ∧ m.span.start ≠ start
          · exact ⟨[start], _, .detached hin hfind hdetached.1 hdetached.2⟩
          · cases firstOnly with
            | true => exact ⟨[start], _, .first hin hfind hdetached rfl⟩
            | false => exact ⟨start :: calls, _, .next hin hfind hdetached rfl hnext⟩

theorem Loops.unique {start : Nat} {calls calls' : List Nat}
    {result result' : Except SearchFault (List Match)}
    (h : Loops matcher anchored firstOnly text start calls result)
    (h' : Loops matcher anchored firstOnly text start calls' result') :
    calls = calls' ∧ result = result' := by
  -- What the search finds decides which constructor the other run ends with.
  induction h generalizing calls' result' with
  | past hpast =>
    cases h' with
    | past => exact ⟨rfl, rfl⟩
    | fault hin | none hin | detached hin | first hin | next hin => omega
  | fault hin hfind =>
    cases h' with
    | past hpast => omega
    | fault _ hfind' =>
      obtain rfl := Except.error.inj (hfind.symm.trans hfind')
      exact ⟨rfl, rfl⟩
    | none _ hfind' | detached _ hfind' | first _ hfind' | next _ hfind' =>
      simp [hfind] at hfind'
  | none hin hfind =>
    cases h' with
    | past hpast => omega
    | none => exact ⟨rfl, rfl⟩
    | fault _ hfind' | detached _ hfind' | first _ hfind' | next _ hfind' =>
      simp [hfind] at hfind'
  | @detached start m hin hfind hanchored hstart =>
    cases h' with
    | past hpast => omega
    | fault _ hfind' | none _ hfind' => simp [hfind] at hfind'
    | detached => exact ⟨rfl, rfl⟩
    | first _ hfind' hattached | next _ hfind' hattached =>
      obtain rfl : m = _ := by simpa [hfind] using hfind'
      exact absurd ⟨hanchored, hstart⟩ hattached
  | @first start m hin hfind hattached hfirst =>
    cases h' with
    | past hpast => omega
    | fault _ hfind' | none _ hfind' => simp [hfind] at hfind'
    | detached _ hfind' hanchored hstart =>
      obtain rfl : m = _ := by simpa [hfind] using hfind'
      exact absurd ⟨hanchored, hstart⟩ hattached
    | first _ hfind' =>
      obtain rfl : m = _ := by simpa [hfind] using hfind'
      exact ⟨rfl, rfl⟩
    | next _ _ _ hall => simp [hfirst] at hall
  | @next start m calls result hin hfind hattached hall hnext ih =>
    cases h' with
    | past hpast => omega
    | fault _ hfind' | none _ hfind' => simp [hfind] at hfind'
    | detached _ hfind' hanchored hstart =>
      obtain rfl : m = _ := by simpa [hfind] using hfind'
      exact absurd ⟨hanchored, hstart⟩ hattached
    | first _ _ _ hfirst => simp [hall] at hfirst
    | next _ hfind' _ _ hnext' =>
      obtain rfl : m = _ := by simpa [hfind] using hfind'
      obtain ⟨rfl, rfl⟩ := ih hnext'
      exact ⟨rfl, rfl⟩

variable {start : Nat} {calls : List Nat} {result : Except SearchFault (List Match)}

theorem Loops.exists_of_mem (h : Loops matcher anchored firstOnly text start calls result)
    {place : Nat} (hplace : place ∈ calls) :
    ∃ calls' result', Loops matcher anchored firstOnly text place calls' result' ∧
      calls'.length ≤ calls.length := by
  induction h with
  | past => simp at hplace
  | fault hin hfind =>
    obtain rfl := List.mem_singleton.1 hplace
    exact ⟨_, _, .fault hin hfind, Nat.le_refl _⟩
  | none hin hfind =>
    obtain rfl := List.mem_singleton.1 hplace
    exact ⟨_, _, .none hin hfind, Nat.le_refl _⟩
  | detached hin hfind hanchored hstart =>
    obtain rfl := List.mem_singleton.1 hplace
    exact ⟨_, _, .detached hin hfind hanchored hstart, Nat.le_refl _⟩
  | first hin hfind hattached hfirst =>
    obtain rfl := List.mem_singleton.1 hplace
    exact ⟨_, _, .first hin hfind hattached hfirst, Nat.le_refl _⟩
  | next hin hfind hattached hall hnext ih =>
    obtain rfl | hplace := List.mem_cons.1 hplace
    · exact ⟨_, _, .next hin hfind hattached hall hnext, Nat.le_refl _⟩
    · obtain ⟨calls', result', hloops, hlength⟩ := ih hplace
      exact ⟨calls', result', hloops, Nat.le_succ_of_le hlength⟩

/-- A loop that ends never comes twice to one place. -/
theorem Loops.nodup (h : Loops matcher anchored firstOnly text start calls result) :
    calls.Nodup := by
  induction h with
  | past => exact .nil
  | fault | none | detached | first => exact List.pairwise_singleton _ _
  | @next start m calls result hin hfind hattached hall hnext ih =>
    refine List.nodup_cons.2 ⟨?_, ih⟩
    intro hagain
    obtain ⟨calls', result', hloops, hlength⟩ := hnext.exists_of_mem hagain
    obtain ⟨rfl, -⟩ := hloops.unique (.next hin hfind hattached hall hnext)
    exact Nat.not_succ_le_self _ hlength

theorem Loops.le_byteLength (h : Loops matcher anchored firstOnly text start calls result) :
    ∀ place ∈ calls, place ≤ Text.byteLength text := by
  induction h with
  | past => simp
  | fault hin | none hin | detached hin | first hin => simpa using hin
  | next hin _ _ _ _ ih => exact List.forall_mem_cons.2 ⟨hin, ih⟩

theorem Loops.length_calls_le (h : Loops matcher anchored firstOnly text start calls result) :
    calls.length ≤ Text.byteLength text + 1 := by
  have hplaces : calls ⊆ List.range (Text.byteLength text + 1) := by
    intro place hplace
    exact List.mem_range.2 (Nat.lt_succ_of_le (h.le_byteLength place hplace))
  simpa using (List.subperm_of_subset h.nodup hplaces).length_le

theorem walkFrom_past (h : Text.byteLength text < start) (turns : Nat) :
    matcher.walkFrom anchored firstOnly text turns start = ([], none) := by
  cases turns <;> rw [walkFrom, if_pos h]

theorem ended_cons (m : Match) (found : List Match) (fault : Option SearchFault) :
    ended (m :: found) fault = (ended found fault).map (m :: ·) := by
  cases fault <;> rfl

theorem Loops.ended_walkFrom (h : Loops matcher anchored firstOnly text start calls result)
    {turns : Nat} (hturns : calls.length ≤ turns) :
    ended (matcher.walkFrom anchored firstOnly text turns start).1
      (matcher.walkFrom anchored firstOnly text turns start).2 = result := by
  induction h generalizing turns with
  | past hpast =>
    rw [walkFrom_past hpast]
    rfl
  | fault hin hfind | none hin hfind =>
    obtain ⟨turns, rfl⟩ := Nat.exists_eq_succ_of_ne_zero (Nat.ne_of_gt hturns)
    rw [walkFrom, if_neg (Nat.not_lt.2 hin), hfind]
    rfl
  | detached hin hfind hanchored hstart =>
    obtain ⟨turns, rfl⟩ := Nat.exists_eq_succ_of_ne_zero (Nat.ne_of_gt hturns)
    simp only [walkFrom, if_neg (Nat.not_lt.2 hin), hfind, if_pos (And.intro hanchored hstart)]
    rfl
  | first hin hfind hattached hfirst =>
    obtain ⟨turns, rfl⟩ := Nat.exists_eq_succ_of_ne_zero (Nat.ne_of_gt hturns)
    simp only [walkFrom, if_neg (Nat.not_lt.2 hin), hfind, if_neg hattached, if_pos hfirst]
    rfl
  | @next start m calls result hin hfind hattached hall hnext ih =>
    obtain ⟨turns, rfl⟩ := Nat.exists_eq_succ_of_ne_zero
      (Nat.ne_of_gt (Nat.lt_of_lt_of_le (Nat.succ_pos _) hturns))
    simp only [walkFrom, if_neg (Nat.not_lt.2 hin), hfind, if_neg hattached, hall,
      Bool.false_eq_true, if_false, ended_cons]
    subst hall
    rw [ih (Nat.le_of_succ_le_succ hturns)]

theorem walkFrom_endless
    (h : ¬∃ calls result, Loops matcher anchored firstOnly text start calls result) (turns : Nat) :
    (matcher.walkFrom anchored firstOnly text turns start).2 = some (.lost .endless) := by
  induction turns generalizing start with
  | zero =>
    have hin : ¬ Text.byteLength text < start := fun hpast => h ⟨_, _, .past hpast⟩
    rw [walkFrom, if_neg hin]
  | succ turns ih =>
    have hpast : ¬ Text.byteLength text < start := fun hpast => h ⟨_, _, .past hpast⟩
    have hin := Nat.not_lt.1 hpast
    cases hfind : matcher.find text start with
    | error e => exact absurd ⟨_, _, .fault hin hfind⟩ h
    | ok found =>
      cases found with
      | none => exact absurd ⟨_, _, .none hin hfind⟩ h
      | some m =>
        by_cases hdetached : anchored ∧ m.span.start ≠ start
        · exact absurd ⟨_, _, .detached hin hfind hdetached.1 hdetached.2⟩ h
        · cases firstOnly with
          | true => exact absurd ⟨_, _, .first hin hfind hdetached rfl⟩ h
          | false =>
            have hnext : ¬∃ calls result,
                Loops matcher anchored false text (resume text m) calls result :=
              fun ⟨calls, result, hloops⟩ => h ⟨_, _, .next hin hfind hdetached rfl hloops⟩
            simp only [walkFrom, if_neg hpast, hfind, if_neg hdetached, Bool.false_eq_true,
              if_false, ih hnext]

/-- A scan has the result of its loop. Where the loop has no end, the scan is lost. -/
theorem scan_loops (matcher : Matcher) (anchored firstOnly : Bool) (text : List Char) :
    (∃ calls, Loops matcher anchored firstOnly text 0 calls
      (matcher.scan anchored firstOnly text)) ∨
    (¬∃ calls result, Loops matcher anchored firstOnly text 0 calls result) ∧
      matcher.scan anchored firstOnly text = .error (.lost .endless) := by
  by_cases h : ∃ calls result, Loops matcher anchored firstOnly text 0 calls result
  · obtain ⟨calls, result, hloops⟩ := h
    have hscan : matcher.scan anchored firstOnly text = result :=
      hloops.ended_walkFrom (Nat.le_succ_of_le hloops.length_calls_le)
    exact .inl ⟨calls, hscan ▸ hloops⟩
  · refine .inr ⟨h, ?_⟩
    have hwalk := walkFrom_endless h (Text.byteLength text + 2)
    rw [scan, walk]
    generalize matcher.walkFrom anchored firstOnly text (Text.byteLength text + 2) 0 = walked
      at hwalk ⊢
    obtain ⟨found, fault⟩ := walked
    obtain rfl : fault = some (.lost .endless) := hwalk
    rfl

theorem loops_scan (hmatcher : matcher.Lawful) (anchored firstOnly : Bool) (text : List Char) :
    ∃ calls, Loops matcher anchored firstOnly text 0 calls
      (matcher.scan anchored firstOnly text) := by
  obtain hloops | ⟨hendless, -⟩ := scan_loops matcher anchored firstOnly text
  · exact hloops
  · exact absurd (hmatcher.loops (.inl (Text.isBoundary_zero text))) hendless

theorem Loops.isBoundary {start : Nat} {calls : List Nat}
    {result : Except SearchFault (List Match)}
    (h : Loops matcher anchored firstOnly text start calls result) (hmatcher : matcher.Lawful)
    (hstart : Stands text start) : ∀ n ∈ calls, Text.isBoundary text n := by
  induction h with
  | past => simp
  | fault hin | none hin | detached hin | first hin =>
    simpa using hstart.isBoundary hin
  | next hin hfind _ _ _ ih =>
    have hbound := hstart.isBoundary hin
    have hstands := (resume_spec (hmatcher _ _ _ hbound hfind)).1
    exact List.forall_mem_cons.2 ⟨hbound, ih hstands⟩

end Matcher

/-- A match that starts behind the start of another one, and not before its end. -/
def Match.Precedes (m m' : Match) : Prop :=
  m.span.start < m'.span.start ∧ m.span.stop ≤ m'.span.start

namespace Matcher

variable {matcher : Matcher} {anchored firstOnly : Bool} {text : List Char}

theorem LiesIn.mono {m : Match} {start start' : Nat} (h : m.LiesIn text start)
    (hle : start' ≤ start) : m.LiesIn text start' :=
  { h with start_le := Nat.le_trans hle h.start_le }

/-- Each match of a walk is found by a search. What holds of the place where the loop stands, and of
the next one after every match, holds of all places where it searches. -/
theorem mem_walkFrom {P : Nat → Prop}
    (hnext : ∀ place m, P place → place ≤ Text.byteLength text →
      matcher.find text place = .ok (some m) → P (resume text m))
    {start : Nat} (hstart : P start) (turns : Nat) :
    ∀ m ∈ (matcher.walkFrom anchored firstOnly text turns start).1,
      ∃ place, P place ∧ place ≤ Text.byteLength text ∧
        matcher.find text place = .ok (some m) := by
  induction turns generalizing start with
  | zero =>
    rw [walkFrom]
    split <;> simp
  | succ turns ih =>
    by_cases hpast : Text.byteLength text < start
    · simp [walkFrom_past hpast]
    · have hin := Nat.not_lt.1 hpast
      rw [walkFrom, if_neg hpast]
      cases hfind : matcher.find text start with
      | error e => simp
      | ok result =>
        cases result with
        | none => simp
        | some m =>
          dsimp only
          by_cases hdetached : anchored ∧ m.span.start ≠ start
          · simp [hdetached]
          · rw [if_neg hdetached]
            cases firstOnly with
            | true => simpa using ⟨start, hstart, hin, hfind⟩
            | false =>
              exact List.forall_mem_cons.2
                ⟨⟨start, hstart, hin, hfind⟩, ih (hnext start m hstart hin hfind)⟩

theorem walkFrom_lies (hmatcher : matcher.Lawful) {start : Nat} (hstart : Stands text start)
    (turns : Nat) :
    (∀ m ∈ (matcher.walkFrom anchored firstOnly text turns start).1, m.LiesIn text start) ∧
      (matcher.walkFrom anchored firstOnly text turns start).1.Pairwise Match.Precedes := by
  induction turns generalizing start with
  | zero =>
    rw [walkFrom]
    split <;> simp
  | succ turns ih =>
    by_cases hpast : Text.byteLength text < start
    · simp [walkFrom_past hpast]
    · have hbound := hstart.isBoundary (Nat.not_lt.1 hpast)
      rw [walkFrom, if_neg hpast]
      cases hfind : matcher.find text start with
      | error e => simp
      | ok result =>
        cases result with
        | none => simp
        | some m =>
          have hm := hmatcher text start m hbound hfind
          obtain ⟨hstands, hlt, hstop⟩ := resume_spec hm
          obtain ⟨hlies, hordered⟩ := ih hstands
          dsimp only
          by_cases hdetached : anchored ∧ m.span.start ≠ start
          · simp [hdetached]
          · cases firstOnly with
            | true => simp [hdetached, hm]
            | false =>
              have hle := hm.start_le
              simp only [if_neg hdetached, Bool.false_eq_true, if_false]
              refine ⟨List.forall_mem_cons.2 ⟨hm, ?_⟩, .cons ?_ hordered⟩
              · intro m' hm'
                exact LiesIn.mono (hlies m' hm') (by omega)
              · intro m' hm'
                have hle' := (hlies m' hm').start_le
                exact ⟨by omega, by omega⟩

theorem scan_eq_ok_iff {found : List Match} :
    matcher.scan anchored firstOnly text = .ok found ↔
      matcher.walk anchored firstOnly text = (found, none) := by
  rw [scan]
  obtain ⟨walked, fault⟩ := matcher.walk anchored firstOnly text
  cases fault <;> simp [ended]

theorem walk_lies (hmatcher : matcher.Lawful) (anchored firstOnly : Bool) (text : List Char) :
    (∀ m ∈ (matcher.walk anchored firstOnly text).1, m.LiesIn text 0) ∧
      (matcher.walk anchored firstOnly text).1.Pairwise Match.Precedes :=
  walkFrom_lies hmatcher (.inl (Text.isBoundary_zero text)) _

end Matcher

end RegexGateway
