import RegexGateway.Engine.Basic

namespace RegexGateway

open Json

abbrev Reply (σ : Type) := ExceptT EngineError (StateM σ)

namespace Validity

def relabel (regexId : Int) : Validity → Validity
  | valid => valid
  | invalid e => invalid { e with regexId }

end Validity

namespace EngineState

variable {σ : Type}

def runner (s : EngineState) (dialect : Dialect) : Runner := ⟨s.capabilities, s.defaults, dialect⟩

def testRequest (s : EngineState) (record : PatternRecord) : RemoteRequest :=
  .test ⟨record.regex, record.modifiers, record.delimiters.getD s.defaults.delimiters⟩

def call {α : Type} (s : EngineState) (transport : Transport σ) (codec : Codec α)
    (request : RemoteRequest) : Reply σ α := do
  match ← transport (RemoteRequest.codec.toString request) with
  | .error fault => throw (.remote s.capabilities.id (.transport fault))
  | .ok response =>
    match codec.ofString response with
    | .ok a => return a
    | .error e => throw (.remote s.capabilities.id (.unreadable request.action e))

end EngineState

def SampleMatches.present (config : MatchConfig) (s : SampleMatches) : SampleMatches :=
  { s with
    outcomes := s.outcomes.map fun o =>
      { o with occurrences := o.occurrences.map config.presentOccurrence } }

def Reply.ofRun {σ α : Type} : Except RunFault α → Reply σ α
  | .ok a => pure a
  | .error fault => throw (.run fault)

namespace Engine

variable {σ : Type}

/-- Whether a pattern can be used. -/
def validity (e : Engine σ) (record : PatternRecord) : Reply σ Validity :=
  match e.backend with
  | .inProcess dialect => pure (.ofResult ((e.state.runner dialect).compile record))
  | .remote transport => e.state.call transport Validity.codec (e.state.testRequest record)

/-- Tests a pattern. The result comes with the engine as the test leaves it: it keeps the error of a
pattern that cannot be used. -/
def test (e : Engine σ) (regex : List Char) (modifiers : Option (List Char))
    (delimiters : Option DelimiterPair) : StateM σ (Except EngineError Bool × Engine σ) := do
  let mut e := e
  match ← (e.validity (e.state.recordToTest regex modifiers delimiters)).run with
  | .error error => return (.error error, e)
  | .ok v =>
    e := { e with state.pending := v.error? }
    return (.ok v.error?.isNone, e)

def testAll (e : Engine σ) : List PatternRecord → Reply σ (List TestOutcome)
  | [] => pure []
  | record :: rest => do
    let v ← e.validity record
    return .new record.id (v.relabel record.id) :: (← e.testAll rest)

/-- The matches of every pattern in every sample. A remote engine is told to leave blanks as they
are; what it has cut to length is cut once more when they are made visible. -/
def matchSamples (e : Engine σ) (samples : List (List Char)) (patterns : List PatternRecord)
    (chain : Option Bool) : Reply σ (List SampleMatches) :=
  let config := e.state.configFor chain
  match e.backend with
  | .inProcess dialect =>
    .ofRun ((e.state.runner dialect).matchSamples config patterns samples)
  | .remote transport => do
    let settings := { config.settings with showBlanks := false }
    let found ← e.state.call transport SampleMatches.codec.list
      (.findMatches ⟨settings, samples, patterns⟩)
    return if config.settings.showBlanks then found.map (·.present config) else found

def replace (e : Engine σ) (samples : List (List Char)) (patterns : List PatternRecord) :
    Reply σ (List ReplacedSample) :=
  match e.backend with
  | .inProcess dialect => .ofRun ((e.state.runner dialect).replace patterns samples)
  | .remote transport =>
    e.state.call transport ReplacedSample.codec.list (.replace ⟨samples, patterns⟩)

end Engine

end RegexGateway
