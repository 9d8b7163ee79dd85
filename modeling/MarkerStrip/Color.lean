/-
  Colours and their written form `#rrggbb`.

  A colour has four channels in single precision.  A channel is kept as the
  bit pattern of its number, because the two zeros are equal and a pattern
  that is no number differs from itself.

  * `Channel.ofByte k` is `k / 255`, rounded to 24 significant bits;
  * `Color.ofRgb` reads the low 24 bits of a word as three bytes;
  * `Color.parse?` accepts a hash followed by six hexadecimal digits of
    either case, and nothing else, and `Color.parse` says what it refused;
  * `Color.same` is equality of the numbers.
-/
import MarkerStrip.Data.Fault
import MarkerStrip.Numeric.Digits
import MarkerStrip.Numeric.Rounding

namespace MarkerStrip

open Numeric (Fraction Scaled)

/-! ## Channels -/

/-- A single-precision number, as its bit pattern. -/
structure Channel where
  bits : UInt32
deriving Repr, DecidableEq

namespace Channel

/-- A pattern with all exponent bits set and a fraction stands for no number. -/
def isNaN (c : Channel) : Bool :=
  decide (0x7f800000 < c.bits &&& 0x7fffffff)

/-- Zero, of either sign. -/
def isZero (c : Channel) : Bool :=
  c.bits &&& 0x7fffffff == 0

/-- Equality of the numbers that two patterns stand for. -/
def same (a b : Channel) : Bool :=
  !a.isNaN && !b.isNaN && (a.bits == b.bits || (a.isZero && b.isZero))

/-- The pattern of a positive number with 24 significant bits: the exponent stands above 23 bits of
    fraction, and the leading bit of the mantissa, which is not stored, raises it by one. -/
def ofScaled (s : Scaled) : Channel :=
  if s.mantissa = 0 then ⟨0⟩
  else ⟨UInt32.ofNat ((s.exponent + 149).toNat * 8388608 + s.mantissa)⟩

/-- The intensity of a byte: its share of 255. -/
def ofByte (k : Nat) : Channel :=
  ofScaled (Fraction.round 24 ⟨k, 255, by decide⟩)

/-- The intensity one. -/
def full : Channel := ⟨0x3f800000⟩

end Channel

/-! ## Colours -/

/-- A colour by the intensities of its channels. -/
structure Color where
  red : Channel
  green : Channel
  blue : Channel
  alpha : Channel
deriving Repr, DecidableEq

namespace Color

def same (a b : Color) : Bool :=
  a.red.same b.red && a.green.same b.green && a.blue.same b.blue && a.alpha.same b.alpha

/-- The opaque colour of the three low bytes of a word, red the highest. -/
def ofRgb (rgb : UInt32) : Color where
  red := .ofByte ((rgb >>> 16) &&& 0xff).toNat
  green := .ofByte ((rgb >>> 8) &&& 0xff).toNat
  blue := .ofByte (rgb &&& 0xff).toNat
  alpha := .full

/-- The colour that `#rrggbb` writes, in digits of either case. -/
def parse? (raw : String) : Option Color :=
  match raw.toList with
  | '#' :: ds =>
    if ds.length = 6 then (Numeric.readDigits? 16 ds).map fun n => ofRgb (UInt32.ofNat n) else none
  | _ => none

/-- The colour that a text writes; a text that writes none is the fault, as it stands. -/
def parse (raw : String) : Except Data.Fault Color :=
  match parse? raw with
  | some c => .ok c
  | none => .error (.invalidColor raw)

end Color

end MarkerStrip
