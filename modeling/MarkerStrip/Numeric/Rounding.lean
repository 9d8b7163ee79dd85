/-
  Exact fractions and their rounding to a number of significant bits.

  Floating-point results are described by what they are: the exact value of
  an operation, rounded to the nearest number with `p` significant bits, a
  tie going to the even neighbour (`p = 53` for double and `p = 24` for
  single precision).  No range of exponents is imposed here.

  * `Fraction` is a nonnegative fraction, not reduced;
  * `nearestEven` and `nearestUp` round a quotient of naturals to a natural,
    and `Tie` chooses between them;
  * `Fraction.unit p` is the exponent of the last of `p` significant bits;
  * `Fraction.round p` is the rounded value, as a mantissa and an exponent,
    and `Fraction.rounded p` the same value as a fraction.
-/

namespace MarkerStrip.Numeric

/-! ## Quotients -/

/-- The natural nearest to `n / d`, a half going to the even neighbour. -/
def nearestEven (n d : Nat) : Nat :=
  let q := n / d
  let r := n % d
  if 2 * r < d then q else if d < 2 * r then q + 1 else q + q % 2

/-- The natural nearest to `n / d`, a half going up. -/
def nearestUp (n d : Nat) : Nat :=
  (2 * n + d) / (2 * d)

/-- Which neighbour a half goes to. -/
inductive Tie where
  | even
  | up
deriving Repr, DecidableEq

/-- The natural nearest to `n / d`. -/
def Tie.nearest : Tie → Nat → Nat → Nat
  | even => nearestEven
  | up => nearestUp

/-! ## Fractions -/

/-- A nonnegative fraction, not necessarily reduced. -/
structure Fraction where
  num : Nat
  den : Nat
  den_pos : 0 < den

namespace Fraction

def ofNat (n : Nat) : Fraction := ⟨n, 1, Nat.one_pos⟩

def add (x y : Fraction) : Fraction :=
  ⟨x.num * y.den + y.num * x.den, x.den * y.den, Nat.mul_pos x.den_pos y.den_pos⟩

def mul (x y : Fraction) : Fraction :=
  ⟨x.num * y.num, x.den * y.den, Nat.mul_pos x.den_pos y.den_pos⟩

/-- The quotient, zero where the divisor is. -/
def div (x y : Fraction) : Fraction :=
  if h : 0 < y.num then ⟨x.num * y.den, x.den * y.num, Nat.mul_pos x.den_pos h⟩ else ofNat 0

/-- Whether `x ≤ y`, by cross multiplication. -/
def le (x y : Fraction) : Bool := Nat.ble (x.num * y.den) (y.num * x.den)

def min (x y : Fraction) : Fraction := if x.le y then x else y

/-- The value times `base ^ k`, for a positive base and any whole `k`. -/
def shift (base : Nat) (h : 0 < base) (x : Fraction) (k : Int) : Fraction :=
  ⟨x.num * Nat.pow base k.toNat, x.den * Nat.pow base (-k).toNat,
    Nat.mul_pos x.den_pos (Nat.pow_pos h)⟩

/-- The value times `2 ^ k`. -/
def shift2 (x : Fraction) (k : Int) : Fraction := x.shift 2 (by decide) k

/-- The value times `10 ^ k`. -/
def shift10 (x : Fraction) (k : Int) : Fraction := x.shift 10 (by decide) k

/-- The greatest `e` with `2 ^ e ≤ x`, for a positive `x`. -/
def log2 (x : Fraction) : Int :=
  let e : Int := (Nat.log2 x.num : Int) - (Nat.log2 x.den : Int)
  if (shift2 (ofNat 1) e).le x then e else e - 1

/-- The exponent of the last of the `p` leading bits of a positive `x`. -/
def unit (p : Nat) (x : Fraction) : Int := x.log2 - (p : Int) + 1

/-- The natural nearest to `x`. -/
def nearestNat (x : Fraction) (tie : Tie) : Nat := tie.nearest x.num x.den

/-- The whole number of units `2 ^ e` nearest to `x`, ties to even. -/
def inUnits (x : Fraction) (e : Int) : Nat :=
  (x.shift2 (-e)).nearestNat .even

end Fraction

/-! ## Rounding to significant bits -/

/-- The value `mantissa * 2 ^ exponent`. -/
structure Scaled where
  mantissa : Nat
  exponent : Int
deriving Repr, DecidableEq

def Scaled.toFraction (s : Scaled) : Fraction :=
  (Fraction.ofNat s.mantissa).shift2 s.exponent

/-- The nearest value with `p` significant bits, ties to even. -/
def Fraction.round (p : Nat) (x : Fraction) : Scaled :=
  if x.num = 0 then ⟨0, 0⟩ else ⟨x.inUnits (x.unit p), x.unit p⟩

/-- The nearest value with `p` significant bits, as a fraction. -/
def Fraction.rounded (p : Nat) (x : Fraction) : Fraction :=
  (x.round p).toFraction

end MarkerStrip.Numeric
