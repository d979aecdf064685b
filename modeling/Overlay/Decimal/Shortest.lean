import Overlay.Numeral

/-!
# The shortest decimal of a double

A finite double stands for an interval of reals: those that round to it. `Decimal.shortest` gives
the decimal with the fewest digits in that interval, and of two such the one nearer to the double.
`Decimal.positional` writes a decimal without an exponent.
-/

namespace Overlay

/-- The number `digits * 10 ^ exponent`. -/
structure Decimal where
  digits : Nat
  exponent : Int
  deriving DecidableEq, Repr

/-- The number `mantissa * 2 ^ exponent`. The gap to the double below is half the gap to the double
above if `narrow` says so. -/
structure Binary where
  mantissa : Nat
  exponent : Int
  narrow : Bool
  deriving DecidableEq, Repr

namespace Binary

/-- The magnitude of a finite double, from its bits. -/
def ofBits (bits : UInt64) : Binary :=
  let e := ((bits >>> 52) &&& 0x7FF).toNat
  let f := (bits &&& 0xFFFFFFFFFFFFF).toNat
  if e = 0 then ⟨f, -1074, false⟩
  else ⟨0x10000000000000 + f, (e : Int) - 1075, decide (f = 0 ∧ 1 < e)⟩

/-- The magnitude and both ends of its interval, as numerators over one denominator. -/
structure Fractions where
  low : Nat
  mid : Nat
  high : Nat
  denominator : Nat

/-- The interval of a magnitude in quarters of its last place. -/
def fractions (x : Binary) : Fractions :=
  let up := Nat.pow 2 (x.exponent - 2).toNat
  let low := if x.narrow then 4 * x.mantissa - 1 else 4 * x.mantissa - 2
  ⟨low * up, 4 * x.mantissa * up, (4 * x.mantissa + 2) * up, Nat.pow 2 (2 - x.exponent).toNat⟩

/-- Whether a decimal rounds to the magnitude: it lies in the interval, whose ends count exactly if
the mantissa is even. -/
def readsBack (x : Binary) (d : Decimal) : Bool :=
  let f := x.fractions
  let n := d.digits * Nat.pow 10 d.exponent.toNat * f.denominator
  let t := Nat.pow 10 (-d.exponent).toNat
  if x.mantissa % 2 = 0 then decide (f.low * t ≤ n ∧ n ≤ f.high * t)
  else decide (f.low * t < n ∧ n < f.high * t)

/-- The least `k`, at most `fuel` steps below zero, with the magnitude below `10 ^ k`. -/
def scaleBelowOne (num den : Nat) : Nat → Nat → Int
  | 0, j => -(j : Int)
  | fuel + 1, j =>
    if den ≤ num * 10 then -(j : Int) else scaleBelowOne (num * 10) den fuel (j + 1)

/-- The least `k` with the magnitude below `10 ^ k`. -/
def scale (x : Binary) : Int :=
  let f := x.fractions
  if f.denominator ≤ f.mid then ((Numeral.digits 10 (f.mid / f.denominator)).length : Int)
  else scaleBelowOne f.mid f.denominator 400 0

/-- The multiple of `10 ^ e` at or below the magnitude. -/
def floorAt (x : Binary) (e : Int) : Nat :=
  let f := x.fractions
  f.mid * Nat.pow 10 (-e).toNat / (f.denominator * Nat.pow 10 e.toNat)

/-- Of two neighbouring multiples of `10 ^ e` around the magnitude, the nearer one; the even one if
both are equally near. -/
def nearer (x : Binary) (c : Nat) (e : Int) : Nat :=
  let f := x.fractions
  let twice := 2 * (f.mid * Nat.pow 10 (-e).toNat)
  let sum := (2 * c + 1) * (f.denominator * Nat.pow 10 e.toNat)
  if twice < sum then c else if sum < twice then c + 1 else if c % 2 = 0 then c else c + 1

/-- The decimal with `n` digits or fewer that reads back, if there is one. -/
def decimalOf? (x : Binary) (n : Nat) : Option Decimal :=
  let e := x.scale - n
  let c := x.floorAt e
  match x.readsBack ⟨c, e⟩, x.readsBack ⟨c + 1, e⟩ with
  | true, true => some ⟨x.nearer c e, e⟩
  | true, false => some ⟨c, e⟩
  | false, true => some ⟨c + 1, e⟩
  | false, false => none

end Binary

namespace Decimal

/-- Moves trailing zeros, at most `fuel` of them, into the exponent. -/
def stripZeros : Nat → Decimal → Decimal
  | 0, d => d
  | fuel + 1, d =>
    if d.digits ≠ 0 ∧ d.digits % 10 = 0 then stripZeros fuel ⟨d.digits / 10, d.exponent + 1⟩
    else d

/-- The decimal with the fewest digits that rounds to a magnitude. -/
def shortest (x : Binary) : Decimal :=
  if x.mantissa = 0 then ⟨0, 0⟩
  else match (List.range 17).findSome? (fun n => x.decimalOf? (n + 1)) with
    | some d => d.stripZeros 20
    | none => ⟨x.floorAt 0, 0⟩

/-- The digits before and after the point, without an exponent. -/
def positionalParts (d : Decimal) : List Char × List Char :=
  let ds := Numeral.digits 10 d.digits
  if 0 ≤ d.exponent then (ds ++ List.replicate d.exponent.toNat '0', [])
  else
    let places := (-d.exponent).toNat
    let padded := List.replicate (places + 1 - ds.length) '0' ++ ds
    (padded.take (padded.length - places), padded.drop (padded.length - places))

/-- A decimal without an exponent; a whole number ends in `.0`. -/
def positional (d : Decimal) : String :=
  let (whole, part) := d.positionalParts
  String.ofList (whole ++ ['.'] ++ if part.isEmpty then ['0'] else part)

end Decimal

/-- The shortest text of a finite double that reads back, without an exponent and with a point. -/
def doubleText (x : Float) : String :=
  let text := (Decimal.shortest (.ofBits x.toBits)).positional
  if x.toBits >>> 63 = 1 then "-" ++ text else text

end Overlay
