/-
  The shortest decimal text of a double-precision number.

  The digits written are the fewest that read back as the number, and of
  those the ones nearest to it.  Every real between the midpoints to the
  number's two neighbours reads back, and the midpoints themselves do iff the
  mantissa is even.

  * `Interval` is the set of reals that read back;
  * `shortest` tries one digit, two digits and so on up to seventeen, and
    looks at the two points of each grid that enclose the number;
  * `Style` says how a tie goes and how digits and exponent are laid out, and
    `Binary64.text` writes a number in a style.
-/
import MarkerStrip.Numeric.Binary64

namespace MarkerStrip.Numeric

/-! ## Shortest digits -/

/-- The reals from `low` to `high`, with or without the two ends. -/
structure Interval where
  low : Fraction
  high : Fraction
  closed : Bool

/-- Whether a fraction lies in the interval. -/
def Interval.contains (i : Interval) (x : Fraction) : Bool :=
  if i.closed then i.low.le x && x.le i.high else !x.le i.low && !i.high.le x

/-- The reals that round to a positive number: up to half a unit above and below it, or a quarter
    below where the unit halves. -/
def Scaled.rounds (s : Scaled) : Interval :=
  let x (m : Nat) : Fraction := (Fraction.ofNat m).shift2 (s.exponent - 2)
  let narrow := s.mantissa == 4503599627370496 && decide (Binary64.minExponent < s.exponent)
  { low := x (4 * s.mantissa - if narrow then 1 else 2)
    high := x (4 * s.mantissa + 2)
    closed := s.mantissa % 2 == 0 }

/-- Decimal digits without trailing zeros, and the power of ten of the last. -/
structure Decimal where
  digits : List Char
  exponent : Int
deriving Repr, DecidableEq

/-- The decimal `n * 10 ^ k`, trailing zeros moved into the exponent. -/
def Decimal.ofScaled (n : Nat) (k : Int) : Decimal :=
  let ds := Nat.toDigits 10 n
  let zeros := (ds.reverse.takeWhile (· == '0')).length
  ⟨ds.take (ds.length - zeros), k + zeros⟩

/-- Where the decimal point of a positive `x` stands: the `k` with `10 ^ (k - 1) ≤ x < 10 ^ k`. -/
def Fraction.pointPosition (x : Fraction) : Int :=
  if x.den ≤ x.num then (Nat.toDigits 10 (x.num / x.den)).length
  else
    let n := (Nat.toDigits 10 (x.den / x.num)).length
    if ((Fraction.ofNat 1).shift10 (1 - (n : Int))).le x then 2 - (n : Int) else 1 - (n : Int)

/-- The point of the grid of step `10 ^ k` that lies in `i` and is nearest to `x`. -/
def onGrid? (tie : Tie) (i : Interval) (x : Fraction) (k : Int) : Option Nat :=
  let y := x.shift10 (-k)
  let n := y.num / y.den
  let inside (n : Nat) : Bool := i.contains ((Fraction.ofNat n).shift10 k)
  match inside n, inside (n + 1) with
  | true, true => some (y.nearestNat tie)
  | true, false => some n
  | false, true => some (n + 1)
  | false, false => none

/-- The shortest decimal that reads back as a positive number. -/
def shortest (tie : Tie) (s : Scaled) : Decimal :=
  let x := s.toFraction
  let point := x.pointPosition
  search x point 17 1
where
  /-- Tries grids of `n` digits and more, `left` of them. -/
  search (x : Fraction) (point : Int) : Nat → Nat → Decimal
    | 0, n => Decimal.ofScaled ((x.shift10 (n - point)).nearestNat tie) (point - n)
    | left + 1, n =>
      match onGrid? tie s.rounds x (point - n) with
      | some d => Decimal.ofScaled d (point - n)
      | none => search x point left (n + 1)

/-! ## Text -/

/-- How numbers are written.  Those whose decimal point stands after at least `least` and at most
    `most` digits have no exponent. -/
structure Style where
  tie : Tie
  least : Option Int
  most : Option Int
deriving Repr, DecidableEq

/-- Every number is written out in full, and a tie goes up. -/
def Style.full : Style := ⟨.up, none, none⟩

/-- Numbers from `10 ^ -5` to below `10 ^ 16` are written out, others with an exponent, and a tie
    goes to the even digit. -/
def Style.brief : Style := ⟨.even, some (-4), some 16⟩

def Style.isPlain (s : Style) (point : Int) : Bool :=
  (s.least.all fun l => decide (l ≤ point)) && s.most.all fun m => decide (point ≤ m)

/-- The digits with a decimal point, and with a zero on a side that has no digit. -/
def Decimal.plain (d : Decimal) : List Char :=
  let point := d.digits.length + d.exponent
  if 0 ≤ d.exponent then d.digits ++ List.replicate d.exponent.toNat '0' ++ ['.', '0']
  else if 0 < point then d.digits.take point.toNat ++ '.' :: d.digits.drop point.toNat
  else ['0', '.'] ++ List.replicate (-point).toNat '0' ++ d.digits

/-- A whole number with its sign, which a positive one has too. -/
def signed (k : Int) : List Char :=
  (if k < 0 then '-' else '+') :: Nat.toDigits 10 k.natAbs

/-- One digit, the others after a point, and the signed exponent. -/
def Decimal.scientific (d : Decimal) : List Char :=
  let exponent := signed (d.digits.length + d.exponent - 1)
  match d.digits with
  | [] => []
  | [c] => c :: 'e' :: exponent
  | c :: cs => c :: '.' :: cs ++ 'e' :: exponent

def Decimal.text (s : Style) (d : Decimal) : List Char :=
  if s.isPlain (d.digits.length + d.exponent) then d.plain else d.scientific

/-- The text of a number: a finite one always shows a point or an exponent. -/
def Binary64.text (s : Style) : Binary64 → String
  | .nan => "NaN"
  | .infinite negative => if negative then "-inf" else "inf"
  | .finite negative v =>
    let body := if v.mantissa = 0 then ['0', '.', '0'] else (shortest s.tie v).text s
    String.ofList (if negative then '-' :: body else body)

end MarkerStrip.Numeric
