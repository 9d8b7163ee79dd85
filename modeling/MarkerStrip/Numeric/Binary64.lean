/-
  Double-precision numbers and the decimals that are read as them.

  A finite number is a sign and `mantissa * 2 ^ exponent`, with a mantissa
  below `2 ^ 53` and an exponent from -1074 to 971.

  * `Binary64.ofFraction` rounds an exact value, ties to even, to zero and to
    infinity where the range ends;
  * `Binary64.ofDecimal` reads `digits * 10 ^ exponent`, correctly rounded;
  * `Binary64.ofScaledDecimal` reads it in two rounded steps, the digits and
    then their product with a power of ten, which is what data formats that
    favour speed do.
-/
import MarkerStrip.Numeric.Rounding

namespace MarkerStrip.Numeric

/-- A number in double precision. -/
inductive Binary64 where
  | nan
  | infinite (negative : Bool)
  | finite (negative : Bool) (value : Scaled)
deriving Repr, DecidableEq

namespace Binary64

/-- The least exponent of a finite number. -/
def minExponent : Int := -1074

/-- The greatest exponent of a finite number. -/
def maxExponent : Int := 971

def zero (negative : Bool) : Binary64 := .finite negative ⟨0, minExponent⟩

/-- The number nearest to `x`, ties to even. -/
def ofFraction (negative : Bool) (x : Fraction) : Binary64 :=
  if x.num = 0 then zero negative
  else
    let e := max (x.unit 53) minExponent
    let m := x.inUnits e
    let s : Scaled := if m < 9007199254740992 then ⟨m, e⟩ else ⟨4503599627370496, e + 1⟩
    if s.exponent ≤ maxExponent then .finite negative s else .infinite negative

/-- The number nearest to `digits * 10 ^ exponent`, ties to even.  Beyond `10 ^ 310` and below
    `10 ^ -330` the result is plain, and the power is not computed. -/
def ofDecimal (negative : Bool) (digits : Nat) (exponent : Int) : Binary64 :=
  let size : Int := (Nat.toDigits 10 digits).length + exponent
  if digits = 0 ∨ size < -330 then zero negative
  else if 310 < size then .infinite negative
  else ofFraction negative ((Fraction.ofNat digits).shift10 exponent)

/-- The absolute value of a finite number. -/
def magnitude? : Binary64 → Option Fraction
  | .finite _ s => some s.toFraction
  | _ => none

/-- The power of ten nearest to `10 ^ k`. -/
def powerOfTen (k : Nat) : Binary64 := ofDecimal false 1 k

/-- Combines a finite number with a power of ten and rounds; other numbers stay as they are. -/
def scaleBy (combine : Fraction → Fraction → Fraction) (x : Binary64) (k : Nat) : Binary64 :=
  match x, (powerOfTen k).magnitude? with
  | .finite negative s, some p => ofFraction negative (combine s.toFraction p)
  | x, _ => x

/-- Reads `digits * 10 ^ exponent` by rounding the digits first and their product with, or quotient
    by, a power of ten up to `10 ^ 308` after.  Three quotients reach zero from any 64-bit digits,
    so lower exponents need no more. -/
def ofScaledDecimal (negative : Bool) (digits : Nat) (exponent : Int) : Binary64 :=
  let x := ofFraction negative (Fraction.ofNat digits)
  if digits = 0 then x
  else if 308 < exponent then .infinite negative
  else if 0 ≤ exponent then x.scaleBy Fraction.mul exponent.toNat
  else lower 3 x (-exponent).toNat
where
  /-- Divides by `10 ^ k`, at most `10 ^ 308` at a time. -/
  lower : Nat → Binary64 → Nat → Binary64
    | 0, _, _ => zero negative
    | n + 1, x, k =>
      if k ≤ 308 then x.scaleBy Fraction.div k else lower n (x.scaleBy Fraction.div 308) (k - 308)

end Binary64

end MarkerStrip.Numeric
