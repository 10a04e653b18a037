import RegexGateway.Dialect.Diagnostic
import RegexGateway.Outcome.Duration
import RegexGateway.Outcome.Groups

namespace RegexGateway

open Json

def PatternError.codec : Codec PatternError :=
  (Shape.codec (.cons (.required "regexID" .int)
    (.cons (.required "rawMessage" .string)
    (.cons (.nullable "offset" .nat)
    (.cons (.nullable "badCharacter" .char)
    (.cons (.required "messages" (.list .string)) .nil))))) "PatternError").along
    (fun e => (e.regexId, e.rawMessage, e.offset, e.badCharacter, e.messages, ()))
    (fun (regexId, rawMessage, offset, badCharacter, messages, _) =>
      ⟨⟨rawMessage, offset, badCharacter, messages⟩, regexId⟩)

inductive Validity where
  | valid
  | invalid (error : PatternError)
  deriving DecidableEq, Repr

namespace Validity

def ofResult {α : Type} : Except PatternError α → Validity
  | .ok _ => valid
  | .error e => invalid e

def error? : Validity → Option PatternError
  | valid => none
  | invalid e => some e

/-- A pattern that cannot be used comes with its error. The error of one that can is passed over. -/
def codec : Codec Validity :=
  (Shape.codec (.cons (.required "valid" .bool)
    (.cons (.optional "error" PatternError.codec) .nil)) "ValidityRepr").refine
    (fun v => (v.error?.isNone, v.error?, ()))
    fun
      | (true, _) => .ok valid
      | (false, some e, _) => .ok (invalid e)
      | (false, none, _) => .error (.rejected "invalid pattern reported without an error")

end Validity

structure PatternOutcome where
  regexId : Int
  validity : Validity
  duration : Duration
  occurrences : List Occurrence
  deriving DecidableEq, Repr

structure SampleMatches where
  sampleId : Nat
  sample : List Char
  outcomes : List PatternOutcome
  duration : Duration
  deriving DecidableEq, Repr

structure ReplacedSample where
  text : List Char
  duration : Duration
  deriving DecidableEq, Repr

structure TestOutcome where
  regexId : Int
  valid : Bool
  error : Option PatternError
  deriving DecidableEq, Repr

def PatternOutcome.codec : Codec PatternOutcome :=
  (Shape.codec (.cons (.required "regexID" .int)
    (.cons (.required "error" Validity.codec)
    (.cons (.required "executionTime" Duration.codec)
    (.cons (.required "matches" (.list Occurrence.codec)) .nil)))) "PatternOutcome").along
    (fun o => (o.regexId, o.validity, o.duration, o.occurrences, ()))
    (fun (regexId, validity, duration, occurrences, _) =>
      ⟨regexId, validity, duration, occurrences⟩)

def SampleMatches.codec : Codec SampleMatches :=
  (Shape.codec (.cons (.required "inputID" .nat)
    (.cons (.required "sample" .text)
    (.cons (.required "allMatches" (.list PatternOutcome.codec))
    (.cons (.required "totalExecutionTime" Duration.codec) .nil)))) "SampleMatches").along
    (fun s => (s.sampleId, s.sample, s.outcomes, s.duration, ()))
    (fun (sampleId, sample, outcomes, duration, _) => ⟨sampleId, sample, outcomes, duration⟩)

def ReplacedSample.codec : Codec ReplacedSample :=
  (Shape.codec (.cons (.required "sample" .text)
    (.cons (.required "duration" Duration.codec) .nil)) "ReplaceResult").along
    (fun r => (r.text, r.duration, ())) (fun (text, duration, _) => ⟨text, duration⟩)

namespace TestOutcome

def new (regexId : Int) : Validity → TestOutcome
  | .valid => ⟨regexId, true, none⟩
  | .invalid e => ⟨regexId, false, some e⟩

def codec : Codec TestOutcome :=
  (Shape.codec (.cons (.required "regexID" .int)
    (.cons (.required "valid" .bool)
    (.cons (.optional "error" PatternError.codec) .nil))) "TestOutcome").along
    (fun o => (o.regexId, o.valid, o.error, ())) (fun (regexId, valid, error, _) =>
      ⟨regexId, valid, error⟩)

end TestOutcome

end RegexGateway
