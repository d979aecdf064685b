import Overlay.Decimal.Shortest

/-!
# The double nearest to a decimal

A decimal is a fraction of two natural numbers. `nearestBits` gives the bits of the double nearest
to a fraction: of two equally near doubles the even one, and infinity for what is too large. The
fraction is rounded once, so no digit of a decimal is lost, however many it has.
-/

namespace Overlay

namespace Binary

/-- The whole number nearest to a fraction, and the even one of two equally near ones. -/
def roundHalfEven (num den : Nat) : Nat :=
  let q := num / den
  let twice := 2 * (num % den)
  if twice < den then q else if den < twice then q + 1 else if q % 2 = 0 then q else q + 1

/-- The exponent of the last binary place of the double at or below a fraction: 53 places hold its
digits, but no place lies below that of the least double. -/
def lastPlace (num den : Nat) : Int :=
  let e := (num.log2 : Int) - den.log2
  let lead := if den * Nat.pow 2 e.toNat ≤ num * Nat.pow 2 (-e).toNat then e else e - 1
  if lead < -1022 then -1074 else lead - 52

/-- The bits of infinity. -/
def infinityBits : Nat := 0x7FF0000000000000

/-- The bits of the double nearest to a fraction. A mantissa that is rounded up to one digit more
carries into the exponent. -/
def nearestBits (num den : Nat) : Nat :=
  let e := lastPlace num den
  let m := roundHalfEven (num * Nat.pow 2 (-e).toNat) (den * Nat.pow 2 e.toNat)
  if m = 0 then 0 else min ((e + 1074).toNat * 0x10000000000000 + m) infinityBits

end Binary

namespace Decimal

/-- The double nearest to a decimal. What lies far outside the range of doubles is zero or infinity
without a look at its digits. -/
def toDouble (d : Decimal) : Float :=
  let size := d.exponent + (Numeral.digits 10 d.digits).length
  if d.digits = 0 ∨ size < -330 then 0.0
  else if 310 < size then 1.0 / 0.0
  else
    Float.ofBits (Binary.nearestBits (d.digits * Nat.pow 10 d.exponent.toNat)
      (Nat.pow 10 (-d.exponent).toNat)).toUInt64

end Decimal

end Overlay
