import RegexGateway.Json.Decode

namespace RegexGateway

structure Duration where
  nanoseconds : UInt64
  deriving DecidableEq, Repr

namespace Duration

def zero : Duration := ⟨0⟩

def nanosecondsPerMillisecond : Float := 1000000.0

def toMilliseconds (d : Duration) : Float :=
  d.nanoseconds.toFloat / nanosecondsPerMillisecond

/-- The whole nanoseconds of a number of milliseconds, as many as a duration can hold. -/
def ofMilliseconds? (ms : Float) : Option Duration :=
  if ms.isFinite && !(ms < 0) then some ⟨(ms * nanosecondsPerMillisecond).toUInt64⟩ else none

open Json in
def codec : Codec Duration :=
  Codec.float.refine toMilliseconds fun ms =>
    match ofMilliseconds? ms with
    | some d => .ok d
    | none => .error (.rejected ("invalid duration " ++ Decimal.plain.text ms))

end Duration

end RegexGateway
