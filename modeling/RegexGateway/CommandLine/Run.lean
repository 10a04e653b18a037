import RegexGateway.CommandLine.Command
import RegexGateway.Envelope.Response
import RegexGateway.Table.Builtin
import RegexGateway.Text.Debug

namespace RegexGateway

namespace CommandLine

inductive FileError where
  | missing
  | other (reason : String)
  deriving DecidableEq, Repr

def FileError.message : FileError → String
  | missing => "No such file or directory (os error 2)"
  | other reason => reason

structure Surroundings where
  file : String → Except FileError String
  stdin : String

/-- How the program ends: with an exit code, or lost. -/
inductive Ending where
  | exit (code : Nat)
  | lost (loss : Loss)
  deriving DecidableEq, Repr

structure Output where
  stdout : List String
  stderr : List String
  ending : Ending
  deriving DecidableEq, Repr

namespace Output

def lines (text : List String) : Output := ⟨text, [], .exit 0⟩

def failure (message : String) (stdout stderr : List String) : Output :=
  ⟨stdout, stderr ++ ["Error: " ++ message], .exit 1⟩

def ofResult {α : Type} (result : Except String α) (next : α → Output) : Output :=
  match result with
  | .ok a => next a
  | .error message => failure message [] []

/-- Goes on with the answer of an engine, or ends as its error says, after what was printed before.
-/
def ofAnswer {α : Type} (answer : Except EngineError α) (stdout stderr : List String)
    (next : α → Output) : Output :=
  match answer with
  | .ok a => next a
  | .error e =>
    match e.loss? with
    | none => failure e.message stdout stderr
    | some loss => ⟨stdout, stderr, .lost loss⟩

def ofServed (served : Served) : Output := ⟨served.lines, [], served.loss.elim (.exit 0) .lost⟩

end Output

def Surroundings.read (s : Surroundings) (path : String) : Except String String :=
  (s.file path).mapError fun e => "cannot read " ++ path ++ ": " ++ e.message

def Surroundings.registry (s : Surroundings) : Option String → Except String Registry
  | some path => do (Registry.ofJson (← s.read path)).mapError (·.message)
  | none => Registry.builtin.mapError (·.message)

def describe (caps : Capabilities) : List String :=
  let defaults := caps.defaults.delimiters.wrap [] caps.defaults.modifiers
  let limits := caps.config.limits
  [caps.id ++ " " ++ caps.name ++ " [" ++ caps.access.name ++ "]",
    "  " ++ caps.label.name ++ ": " ++ String.ofList caps.allowedModifiers,
    "  defaults: " ++ String.ofList defaults,
    "  limits: whole " ++ toString limits.wholeLength ++ ", part " ++ toString limits.partLength ++
      ", sample " ++ toString limits.sampleLength] ++
    if caps.docsUrl.isEmpty then [] else ["  docs: " ++ caps.docsUrl]

def openEngine (registry : Registry) (id : String) : Except String (Engine Unit) := do
  let caps ← (registry.require id).mapError (·.message)
  (Engine.ofTable caps).mapError (·.message)

def await {α : Type} (reply : Reply Unit α) : Except EngineError α := (reply.run.run ()).1

def complaint (e : PatternError) : List String :=
  ("  " ++ e.rawMessage) ::
    (match e.offset, e.badCharacter with
      | some n, some c => ["  at offset " ++ toString n ++ ": " ++ c.toString]
      | _, _ => []) ++
    e.messages.map ("  - " ++ ·)

/-- Tests a pattern. The exit code tells one that can be used from one that cannot. -/
def runTest (registry : Registry) (id pattern : String) (modifiers delimiters : Option String) :
    Output :=
  let pair : Except String (Option DelimiterPair) := match delimiters with
    | none => .ok none
    | some raw =>
      match DelimiterPair.ofText? raw.toList with
      | some pair => .ok (some pair)
      | none => .error ("delimiters must be one or two characters: " ++ Text.debug raw)
  .ofResult pair fun pair =>
  .ofResult (openEngine registry id) fun engine =>
    let header := ["Testing pattern...", "  Engine:  " ++ id, "  Pattern: " ++ pattern, ""]
    let (result, engine) :=
      ((engine.test pattern.toList (modifiers.map String.toList) pair).run ()).1
    .ofAnswer result header [] fun valid =>
      if valid then .lines (header ++ ["✓ Pattern is valid"])
      else
        let reasons := (engine.state.pending.map complaint).getD []
        ⟨header ++ "✗ Pattern is invalid" :: reasons, [], .exit 2⟩

def millisecondsText (d : Duration) : String :=
  let micros := (d.nanoseconds.toNat + 500) / 1000
  let fraction := toString (micros % 1000)
  toString (micros / 1000) ++ "." ++ String.ofList (List.replicate (3 - fraction.length) '0') ++
    fraction ++ "ms"

def showOccurrence (m : Occurrence) : List String :=
  ("    " ++ String.ofList m.whole ++ " at " ++ toString m.position) ::
    m.parts.map fun (key, text) =>
      "      " ++ key ++ ": " ++ (text.map String.ofList).getD "(none)"

def showOutcome (o : PatternOutcome) : List String :=
  let number := "  #" ++ toString o.regexId ++ " "
  match o.validity with
  | .invalid e => [number ++ "invalid: " ++ e.rawMessage]
  | .valid =>
    if o.occurrences.isEmpty then [number ++ "no match"]
    else (number ++ toString o.occurrences.length ++ " match(es) (" ++
      millisecondsText o.duration ++ ")") :: o.occurrences.flatMap showOccurrence

def showSample (s : SampleMatches) : List String :=
  ("[" ++ toString s.sampleId ++ "] " ++ String.ofList s.sample) :: s.outcomes.flatMap showOutcome

def runMatch (registry : Registry) (id : String) (patterns : List PatternRecord)
    (samples : List String) (chain showBlanks json : Bool) : Output :=
  .ofResult (openEngine registry id) fun engine =>
    let engine := engine.setSetting (.showBlanks showBlanks)
    .ofAnswer (await (engine.matchSamples (samples.map String.toList) patterns (some chain))) [] []
      fun found =>
        .lines (if json then [(SampleMatches.codec.list.encode found).pretty]
          else found.flatMap showSample)

/-- Replaces. Patterns that cannot be used are named and passed over. -/
def runReplace (registry : Registry) (id : String) (patterns : List PatternRecord)
    (samples : List String) : Output :=
  .ofResult (openEngine registry id) fun engine =>
  .ofAnswer (await (engine.testAll patterns)) [] [] fun outcomes =>
    let skipped := outcomes.filterMap fun o =>
      if o.valid then none else o.error.map fun e => "Skipped: " ++ e.display
    .ofAnswer (await (engine.replace (samples.map String.toList) patterns)) [] skipped
      fun replaced => ⟨replaced.map fun r => String.ofList r.text, skipped, .exit 0⟩

def runRequest (registry : Registry) (id : String) (quotas : Envelope.Quotas) (pretty : Bool)
    (text : String) : Output :=
  match (Envelope.Desk.mk registry id quotas).respond text.toList with
  | .ok response => .lines [if pretty then response.toJson.pretty else response.toJson.compact]
  | .error loss => ⟨[], [], .lost loss⟩

/-- Answers the requests on the lines of a text. -/
def runServe (registry : Registry) (id text : String) : Output :=
  .ofResult ((registry.require id).mapError (·.message)) fun caps =>
    .ofServed ((Handler.ofTable caps).serve text.toList)

namespace Invocation

def run (i : Invocation) (s : Surroundings) : Output :=
  .ofResult (s.registry i.enginesFile) fun registry =>
    match i.command with
    | .engines => .lines (registry.engines.flatMap describe)
    | .test pattern modifiers delimiters => runTest registry i.engine pattern modifiers delimiters
    | .findMatches patterns samples chain showBlanks json =>
      runMatch registry i.engine patterns samples chain showBlanks json
    | .replace patterns samples => runReplace registry i.engine patterns samples
    | .request file quotas pretty =>
      .ofResult (file.elim (.ok s.stdin) s.read) (runRequest registry i.engine quotas pretty)
    | .serve => runServe registry i.engine s.stdin

def readsInput (i : Invocation) : Bool :=
  match i.command with
  | .request none .. | .serve => true
  | _ => false

def files (i : Invocation) : List String :=
  i.enginesFile.toList ++
    match i.command with
    | .request (some path) .. => [path]
    | _ => []

end Invocation

def run (arguments : List String) (s : Surroundings) : Output :=
  match parse arguments with
  | .ok invocation => invocation.run s
  | .error e => ⟨[], ["error: " ++ e.message], .exit 2⟩

end CommandLine

end RegexGateway
