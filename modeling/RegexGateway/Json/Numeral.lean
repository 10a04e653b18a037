import RegexGateway.Json.Node

namespace RegexGateway

namespace Json

structure Numeral where
  negative : Bool
  whole : List Char
  fraction : Option (List Char)
  exponent : Option (Bool × List Char)
  deriving DecidableEq, Repr

namespace Numeral

def wordLimit : Nat := UInt64.size

def digitValue (c : Char) : Nat := c.toNat - 48

/-- Adds digits to a number as long as it fits a machine word; says how many digits were added and
what is left of them. -/
def accumulate (n count : Nat) : List Char → Nat × Nat × List Char
  | [] => (n, count, [])
  | c :: rest =>
    if 10 * n + digitValue c < wordLimit then accumulate (10 * n + digitValue c) (count + 1) rest
    else (n, count, c :: rest)

def scale (x : Float) (exponent : Int) : Nat → Except SyntaxError Float
  | 0 => .ok x
  | fuel + 1 =>
    if exponent.natAbs ≤ 308 then
      let power := Float.ofScientific 1 false exponent.natAbs
      if 0 ≤ exponent then
        if (x * power).isInf then .error .numberOutOfRange else .ok (x * power)
      else .ok (x / power)
    else if x == 0 then .ok x
    else if 0 ≤ exponent then .error .numberOutOfRange
    else scale (x / 1e308) (exponent + 308) fuel

/-- A floating-point number from its leading digits. Three steps bring the least exponent to
zero. -/
def float (negative : Bool) (n : Nat) (exponent : Int) : Except SyntaxError Number := do
  let x ← scale (UInt64.ofNat n).toFloat exponent 4
  return .float (if negative then -x else x)

def exponentLimit : Nat := 0x80000000

/-- Whole numbers of 64 bits are exact. All others become floating-point numbers from their first
digits, as many as a machine word holds. -/
def value (t : Numeral) : Except SyntaxError Number :=
  let (n, _, beyond) := accumulate 0 0 t.whole
  let (n, exponent) : Nat × Int := match t.fraction with
    | none => (n, beyond.length)
    | some digits =>
      let (n, count, _) := accumulate n 0 digits
      (n, (beyond.length : Int) - count)
  match t.exponent with
  | some (down, digits) =>
    let e := digits.foldl (fun (e : Nat) c => 10 * e + digitValue c) 0
    if exponentLimit ≤ e then
      if n ≠ 0 ∧ !down then .error .numberOutOfRange
      else .ok (.float (if t.negative then -0.0 else 0.0))
    else float t.negative n (if down then exponent - e else exponent + e)
  | none =>
    if t.fraction.isSome ∨ !beyond.isEmpty then float t.negative n exponent
    else if !t.negative then .ok (.int n)
    else if n = 0 ∨ 0x8000000000000000 < n then .ok (.float (-(UInt64.ofNat n).toFloat))
    else .ok (.int (-n))

end Numeral

end Json

end RegexGateway
