import RegexGateway.Outcome.Basic
import RegexGateway.Pattern.Scan

namespace RegexGateway

abbrev Attempt := Except PatternError CompiledPattern

namespace MatchConfig

/-- An occurrence as a caller is shown it. -/
def presentOccurrence (c : MatchConfig) (m : Occurrence) : Occurrence :=
  { m with whole := c.presentWhole m.whole, parts := m.parts.mapTexts c.presentPart }

end MatchConfig

namespace PatternOutcome

def ofError (e : PatternError) : PatternOutcome := ⟨e.regexId, .invalid e, .zero, []⟩

def ofOccurrences (config : MatchConfig) (id : Int) (found : List Occurrence) : PatternOutcome :=
  ⟨id, .valid, .zero, found.map config.presentOccurrence⟩

end PatternOutcome

namespace Batch

/-- The outcomes of patterns in a text. In a chain each pattern but the last replaces its matches
before the next one runs. No time is taken, so every duration is zero. -/
def outcomes (config : MatchConfig) :
    List Attempt → List Char → Except RunFault (List PatternOutcome)
  | [], _ => .ok []
  | .error e :: rest, text => do return .ofError e :: (← outcomes config rest text)
  | .ok p :: rest, text => do
    let found ← p.execute text
    let text ← if config.settings.chain && !rest.isEmpty then p.replaceAll text else .ok text
    return .ofOccurrences config p.id found :: (← outcomes config rest text)

def matchSample (config : MatchConfig) (attempts : List Attempt) (id : Nat)
    (sample : List Char) : Except RunFault SampleMatches := do
  return ⟨id, config.presentSample sample, ← outcomes config attempts sample, .zero⟩

def matchFrom (config : MatchConfig) (attempts : List Attempt) :
    Nat → List (List Char) → Except RunFault (List SampleMatches)
  | _, [] => .ok []
  | id, sample :: rest => do
    let found ← matchSample config attempts id sample
    return found :: (← matchFrom config attempts (id + 1) rest)

def replaceText : List Attempt → List Char → Except RunFault (List Char)
  | [], text => .ok text
  | .error _ :: rest, text => replaceText rest text
  | .ok p :: rest, text => do replaceText rest (← p.replaceAll text)

def replaceEach (attempts : List Attempt) :
    List (List Char) → Except RunFault (List ReplacedSample)
  | [] => .ok []
  | sample :: rest => do
    let text ← replaceText attempts sample
    return ⟨text, .zero⟩ :: (← replaceEach attempts rest)

end Batch

namespace Runner

/-- Whether each of the patterns can be used. None is run. -/
def test (r : Runner) (patterns : List PatternRecord) : List TestOutcome :=
  patterns.map fun record => .new record.id (.ofResult (r.compile record))

def matchSamples (r : Runner) (config : MatchConfig) (patterns : List PatternRecord)
    (samples : List (List Char)) : Except RunFault (List SampleMatches) :=
  Batch.matchFrom config (patterns.map r.compile) 0 samples

def replace (r : Runner) (patterns : List PatternRecord) (samples : List (List Char)) :
    Except RunFault (List ReplacedSample) :=
  Batch.replaceEach (patterns.map r.compile) samples

end Runner

end RegexGateway
