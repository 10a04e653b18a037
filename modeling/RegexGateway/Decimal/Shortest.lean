namespace RegexGateway

namespace Decimal

structure Digits where
  digits : List Nat
  exponent : Int
  deriving DecidableEq, Repr

/-- A finite number's magnitude as `mantissa * 2 ^ exponent`, and whether the gap below it is half
the gap above. -/
structure Binary where
  mantissa : Nat
  exponent : Int
  narrowBelow : Bool
  deriving DecidableEq, Repr

def Binary.ofFloat (x : Float) : Binary :=
  let bits := x.toBits.toNat
  let fraction := bits % (1 <<< 52)
  let scale : Nat := (bits >>> 52) % (1 <<< 11)
  if scale = 0 then ⟨fraction, -1074, false⟩
  else ⟨(1 <<< 52) + fraction, scale - 1075, fraction = 0 ∧ 1 < scale⟩

structure Interval where
  low : Nat
  value : Nat
  high : Nat
  denominator : Nat
  closed : Bool

def Binary.interval (b : Binary) : Interval :=
  let up := 1 <<< (b.exponent - 2).toNat
  let value := 4 * b.mantissa
  ⟨(if b.narrowBelow then value - 1 else value - 2) * up, value * up, (value + 2) * up,
    1 <<< (2 - b.exponent).toNat, b.mantissa % 2 = 0⟩

namespace Interval

def contains (i : Interval) (n : Nat) (exponent : Int) : Bool :=
  let point := n * Nat.pow 10 exponent.toNat * i.denominator
  let scale := Nat.pow 10 (-exponent).toNat
  if i.closed then i.low * scale ≤ point && point ≤ i.high * scale
  else i.low * scale < point && point < i.high * scale

def floor (i : Interval) (exponent : Int) : Nat × Bool :=
  let numerator := i.value * Nat.pow 10 (-exponent).toNat
  let unit := i.denominator * Nat.pow 10 exponent.toNat
  let n := numerator / unit
  (n, 2 * (numerator % unit) < unit || (2 * (numerator % unit) = unit && n % 2 = 0))

def leading (i : Interval) : Int :=
  if i.denominator ≤ i.value then (Nat.toDigits 10 (i.value / i.denominator)).length - 1
  else
    let rec below (fuel : Nat) (power : Nat) (exponent : Int) : Int :=
      match fuel with
      | 0 => exponent
      | fuel + 1 =>
        if i.denominator ≤ i.value * power then exponent
        else below fuel (10 * power) (exponent - 1)
    below 400 10 (-1)

/-- The shortest of the decimals in the interval with at least so many digits, and of those the one
nearest to the value. -/
def shortest (i : Interval) (leading : Int) : Nat → Nat → Nat × Int
  | 0, digits =>
    let exponent := leading - digits + 1
    ((i.floor exponent).1, exponent)
  | fuel + 1, digits =>
    let exponent := leading - digits + 1
    let (n, low) := i.floor exponent
    let below := i.contains n exponent
    let above := i.contains (n + 1) exponent
    if below && (low || !above) then (n, exponent)
    else if above then (n + 1, exponent)
    else i.shortest leading fuel (digits + 1)

end Interval

def Digits.ofFloat (x : Float) : Digits :=
  let i := (Binary.ofFloat x).interval
  let (n, exponent) := i.shortest i.leading 17 1
  let digits := (Nat.toDigits 10 n).map fun c => c.toNat - 48
  let kept := (digits.reverse.dropWhile (· = 0)).reverse
  ⟨kept, exponent + digits.length - 1⟩

/-- How decimals are written: the exponents of the first digit for which they are positional, if
not all are, and whether a whole number shows that it could have a fraction. -/
structure Format where
  positional : Option (Int × Int)
  fraction : Bool
  deriving DecidableEq, Repr

def digitText (digits : List Nat) : String := String.join (digits.map toString)

def Digits.text (f : Format) (d : Digits) : String :=
  let scientific := match f.positional with
    | none => false
    | some (least, greatest) => d.exponent < least || greatest < d.exponent
  if scientific then
    let fraction := d.digits.drop 1
    digitText (d.digits.take 1) ++ (if fraction.isEmpty then "" else "." ++ digitText fraction) ++
      "e" ++ (if d.exponent < 0 then "-" else "+") ++ toString d.exponent.natAbs
  else if d.exponent < 0 then
    "0." ++ digitText (List.replicate (d.exponent.natAbs - 1) 0 ++ d.digits)
  else
    let whole := d.exponent.toNat + 1
    let fraction := d.digits.drop whole
    digitText (d.digits.take whole ++ List.replicate (whole - d.digits.length) 0) ++
      (if fraction.isEmpty then if f.fraction then ".0" else "" else "." ++ digitText fraction)

def Format.text (f : Format) (x : Float) : String :=
  let sign := if x.toBits.toNat < 0x8000000000000000 then "" else "-"
  if (Binary.ofFloat x).mantissa = 0 then sign ++ if f.fraction then "0.0" else "0"
  else sign ++ (Digits.ofFloat x).text f

def plain : Format := ⟨none, false⟩

end Decimal

end RegexGateway
