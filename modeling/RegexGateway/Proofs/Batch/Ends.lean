import RegexGateway.Batch
import RegexGateway.Proofs.Dialect.Spans

namespace RegexGateway

section

variable {α β : Type}

/-- A run that is not lost: it has a result, or it was given up. -/
def ComesBack (run : Except RunFault α) : Prop :=
  ∀ fault, run = .error fault → fault.cause.loss? = none

@[simp] theorem comesBack_ok (a : α) : ComesBack (.ok a) := nofun

theorem ComesBack.bind {run : Except RunFault α} {next : α → Except RunFault β}
    (h : ComesBack run) (hnext : ∀ a, ComesBack (next a)) : ComesBack (run >>= next) := by
  cases run with
  | ok a => exact hnext a
  | error fault =>
    rintro _ ⟨⟩
    exact h fault rfl

theorem ComesBack.map {run : Except RunFault α} (h : ComesBack run) (f : α → β) :
    ComesBack (f <$> run) :=
  fun fault hfault => h fault (map_eq_error.1 hfault)

end

/-- A matcher that keeps its promises, and whose searches are not lost. -/
structure Matcher.Dependable (matcher : Matcher) : Prop where
  lawful : matcher.Lawful
  find_fails : ∀ text start fault, matcher.find text start = .error fault → fault.loss? = none

namespace CompiledPattern

variable {p : CompiledPattern}

theorem comesBack_scan (hp : p.matcher.Dependable) (mode : ScanMode) (text : List Char) :
    ComesBack (p.scan mode text) := by
  obtain ⟨calls, hloops⟩ :=
    Matcher.loops_scan hp.lawful p.anchored (mode = .first) text
  unfold scan
  obtain ⟨found, hfound⟩ | ⟨start, -, fault, hfind, hfault⟩ := hloops.ok_or_fault
  · rw [hfound]
    exact comesBack_ok found
  · rw [hfault]
    rintro _ ⟨⟩
    exact hp.find_fails text start fault hfind

theorem comesBack_execute (hp : p.matcher.Dependable) (text : List Char) :
    ComesBack (p.execute text) := by
  rw [execute_eq_map hp.lawful]
  exact (comesBack_scan hp p.scanMode text).map _

theorem comesBack_replaceAll (hp : p.matcher.Dependable) (text : List Char) :
    ComesBack (p.replaceAll text) := by
  rw [replaceAll_eq_map hp.lawful]
  exact (comesBack_scan hp .all text).map _

end CompiledPattern

namespace Batch

variable {attempts : List Attempt}

def Dependable (attempts : List Attempt) : Prop :=
  ∀ p, .ok p ∈ attempts → p.matcher.Dependable

theorem dependable_cons {attempt : Attempt} :
    Dependable (attempt :: attempts) ↔
      (∀ p, attempt = .ok p → p.matcher.Dependable) ∧ Dependable attempts := by
  simp only [Dependable, List.mem_cons, or_imp, forall_and, eq_comm]

theorem comesBack_outcomes (config : MatchConfig) (h : Dependable attempts) (text : List Char) :
    ComesBack (outcomes config attempts text) := by
  induction attempts generalizing text with
  | nil => exact comesBack_ok []
  | cons attempt rest ih =>
    obtain ⟨hattempt, hrest⟩ := dependable_cons.1 h
    cases attempt with
    | error e => exact (ih hrest text).bind fun _ => comesBack_ok _
    | ok p =>
      have hp := hattempt p rfl
      refine (CompiledPattern.comesBack_execute hp text).bind fun found => ?_
      have hnext : ∀ next, ComesBack (do
          return .ofOccurrences config p.id found :: (← outcomes config rest next)) :=
        fun next => (ih hrest next).bind fun _ => comesBack_ok _
      split
      · exact (CompiledPattern.comesBack_replaceAll hp text).bind hnext
      · exact hnext text

theorem comesBack_matchFrom (config : MatchConfig) (h : Dependable attempts) (id : Nat)
    (samples : List (List Char)) : ComesBack (matchFrom config attempts id samples) := by
  induction samples generalizing id with
  | nil => exact comesBack_ok []
  | cons sample rest ih =>
    have hsample : ComesBack (matchSample config attempts id sample) :=
      (comesBack_outcomes config h sample).bind fun _ => comesBack_ok _
    exact hsample.bind fun _ => (ih (id + 1)).bind fun _ => comesBack_ok _

theorem comesBack_replaceText (h : Dependable attempts) (text : List Char) :
    ComesBack (replaceText attempts text) := by
  induction attempts generalizing text with
  | nil => exact comesBack_ok text
  | cons attempt rest ih =>
    obtain ⟨hattempt, hrest⟩ := dependable_cons.1 h
    cases attempt with
    | error e => exact ih hrest text
    | ok p => exact (CompiledPattern.comesBack_replaceAll (hattempt p rfl) text).bind (ih hrest)

theorem comesBack_replaceEach (h : Dependable attempts) (samples : List (List Char)) :
    ComesBack (replaceEach attempts samples) := by
  induction samples with
  | nil => exact comesBack_ok []
  | cons sample rest ih =>
    exact (comesBack_replaceText h sample).bind fun _ => ih.bind fun _ => comesBack_ok _

end Batch

theorem Regex.Program.find_ne_error {p : Program} {text : List Char} {start : Nat}
    {fault : SearchFault} : p.matcher.find text start ≠ .error fault := nofun

theorem Backtrack.Compiled.find_fails {c : Compiled} {names : List (Option String)}
    {text : List Char} {start : Nat} {fault : SearchFault}
    (h : (c.matcher names).find text start = .error fault) : fault.loss? = none := by
  cases c with
  | easy program => exact absurd h Regex.Program.find_ne_error
  | hard machine =>
    simp only [matcher] at h
    cases hsearch : machine.search text start with
    | ok found => simp [hsearch] at h
    | error e =>
      rw [hsearch] at h
      obtain rfl := Except.error.inj h
      rfl

/-- The two dialects may give a search up, but they lose none. -/
theorem Dialect.find_fails {d : Dialect} (hd : d = standard ∨ d = fancy) {pattern : List Char}
    {flags : FlagSet} {matcher : Matcher} (hcompile : d.compile pattern flags = .ok matcher)
    {text : List Char} {start : Nat} {fault : SearchFault}
    (hfind : matcher.find text start = .error fault) : fault.loss? = none := by
  rcases hd with rfl | rfl
  · obtain ⟨program, rfl⟩ := standard_compile hcompile
    exact absurd hfind Regex.Program.find_ne_error
  · obtain ⟨tree, -, hcompiled⟩ := bind_eq_ok.1 (fancy_compile hcompile)
    obtain ⟨compiled, -, hmatcher⟩ := bind_eq_ok.1 hcompiled
    obtain rfl := Except.ok.inj hmatcher
    exact Backtrack.Compiled.find_fails hfind

theorem DialectKind.nearest_eq (kind : DialectKind) :
    kind.nearest = .standard ∨ kind.nearest = .fancy := by
  cases kind with
  | standard => exact .inl rfl
  | fancy | pcre2 => exact .inr rfl

namespace Runner

variable {r : Runner}

/-- The pattern of a record lets no match start anew where it looks behind. -/
def KeepsAhead (r : Runner) (record : PatternRecord) : Prop :=
  ∀ p, r.compile record = .ok p →
    r.dialect.keepsBehind record.regex (.ofModifiers p.modifiers) = false

theorem KeepsAhead.dependable {record : PatternRecord} (h : r.KeepsAhead record)
    (hr : r.dialect = .standard ∨ r.dialect = .fancy) {p : CompiledPattern}
    (hp : r.compile record = .ok p) : p.matcher.Dependable where
  lawful := (cutting_of_compile hr hp (h p hp)).lawful
  find_fails _ _ _ := Dialect.find_fails hr (compile_matcher hp)

variable {patterns : List PatternRecord}

theorem dependable_attempts (hr : r.dialect = .standard ∨ r.dialect = .fancy)
    (h : ∀ record ∈ patterns, r.KeepsAhead record) :
    Batch.Dependable (patterns.map r.compile) := by
  intro p hp
  obtain ⟨record, hrecord, hcompile⟩ := List.mem_map.1 hp
  exact (h record hrecord).dependable hr hcompile

theorem comesBack_matchSamples (hr : r.dialect = .standard ∨ r.dialect = .fancy)
    (h : ∀ record ∈ patterns, r.KeepsAhead record) (config : MatchConfig)
    (samples : List (List Char)) : ComesBack (r.matchSamples config patterns samples) :=
  Batch.comesBack_matchFrom config (dependable_attempts hr h) 0 samples

theorem comesBack_replace (hr : r.dialect = .standard ∨ r.dialect = .fancy)
    (h : ∀ record ∈ patterns, r.KeepsAhead record) (samples : List (List Char)) :
    ComesBack (r.replace patterns samples) :=
  Batch.comesBack_replaceEach (dependable_attempts hr h) samples

end Runner

end RegexGateway
