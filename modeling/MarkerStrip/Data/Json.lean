/-
  JSON values, as far as decoding looks at them.

  An object is a dictionary, so its keys ascend.  A number written without a
  fraction and an exponent is an integer if it fits in 64 bits, signed or
  not; all other numbers, and the integer zero with a minus sign, are double
  precision numbers (`Json.ofNumeral`).
-/
import MarkerStrip.Data.Dict
import MarkerStrip.Data.Fault
import MarkerStrip.Numeric.Shortest

namespace MarkerStrip.Data

open Numeric (Binary64)

inductive Json where
  | null
  | boolean (b : Bool)
  | integer (n : Int)
  | real (x : Binary64)
  | string (s : String)
  | array (items : List Json)
  | object (fields : List (String × Json))

namespace Json

/-- How a fault describes the value. -/
def found : Json → Found
  | null => .null
  | boolean b => .boolean b
  | integer n => .integer n
  | real x => .real (x.text .brief)
  | string s => .text s
  | array _ => .sequence
  | object _ => .map

/-! ## Numbers -/

/-- Digits read so far, in 64 bits, and the power of ten of the last of them. -/
structure Numeral where
  digits : Nat := 0
  exponent : Int := 0
  full : Bool := false

namespace Numeral

/-- Whether another digit still fits. -/
def fits (n : Numeral) (d : Nat) : Bool :=
  decide (10 * n.digits + d < 18446744073709551616)

/-- Reads a digit before the point; once one has not fitted, it and all later ones only count. -/
def whole (n : Numeral) (d : Nat) : Numeral :=
  if !n.full && n.fits d then { n with digits := 10 * n.digits + d }
  else { n with exponent := n.exponent + 1, full := true }

/-- Reads a digit after the point; once one has not fitted, it and all later ones are dropped. -/
def fraction (n : Numeral) (d : Nat) : Numeral :=
  if !n.full && n.fits d then { n with digits := 10 * n.digits + d, exponent := n.exponent - 1 }
  else { n with full := true }

end Numeral

/-- The number with the given digits before and after the point, times a power of ten.  Fraction and
    exponent are absent where they are not written. -/
def ofNumeral (negative : Bool) (whole : List Nat) (fraction : Option (List Nat))
    (exponent : Option Int) : Json :=
  let n := whole.foldl Numeral.whole {}
  let isInteger := fraction.isNone && exponent.isNone && !n.full
  if isInteger && !negative then .integer n.digits
  else if isInteger && decide (0 < n.digits) && decide (n.digits ≤ 9223372036854775808) then
    .integer (-(n.digits : Int))
  else
    let n := (fraction.getD []).foldl Numeral.fraction { n with full := false }
    .real (Binary64.ofScaledDecimal negative n.digits (n.exponent + exponent.getD 0))

end Json

end MarkerStrip.Data
