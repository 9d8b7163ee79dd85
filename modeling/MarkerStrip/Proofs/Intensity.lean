/-
  The numbers that channels stand for.

  * `Channel.value` is the number of a pattern, and `Channel.value_eq_of_same`
    that patterns which are the same stand for one number;
  * `Channel.isNearest_ofByte`: the intensity of a byte is the single-precision
    number nearest to its share of 255, and no other is as near;
  * `Channel.same_ofByte_iff`: so no two bytes have one intensity, and
    `Color.same_ofRgb_iff`: no two words of three bytes have one colour.
-/
import Mathlib.Tactic.LinearCombination
import Mathlib.Tactic.NormNum
import MarkerStrip.Color
import MarkerStrip.Proofs.Rounding

namespace MarkerStrip

open Numeric (Fraction Scaled Tie)

/-! ## Distances -/

namespace Numeric

variable {y z : ℚ} {m k : ℤ}

theorem Tie.Nearest.abs_sub_lt_half {tie : Tie} {m : Nat} (nearest : tie.Nearest y m)
    (clear : ∀ n : ℤ, y ≠ n + 1 / 2) : |((m : ℤ) : ℚ) - y| < 1 / 2 := by
  have above := clear m
  have below := clear (m - 1)
  push_cast at above below ⊢
  refine abs_lt.2 ⟨?_, ?_⟩
  · have := lt_of_le_of_ne nearest.le_add above
    linarith
  · have := lt_of_le_of_ne nearest.sub_le fun h => below (by linarith)
    linarith

/-- A whole number less than a half away is nearer than all that is below another. -/
theorem abs_sub_lt_of_lt (half : |(m : ℚ) - y| < 1 / 2) (le : k ≤ y) (lt : z < k) :
    |(m : ℚ) - y| < |z - y| := by
  have no_nearer : |(m : ℚ) - y| ≤ |(k : ℚ) - y| := by
    rcases eq_or_ne k m with rfl | ne
    · exact le_rfl
    · exact (abs_sub_lt_abs_sub half ne).le
  calc |(m : ℚ) - y| ≤ |(k : ℚ) - y| := no_nearer
    _ = y - k := by rw [abs_sub_comm, abs_of_nonneg (sub_nonneg.2 le)]
    _ < y - z := sub_lt_sub_left lt y
    _ ≤ |z - y| := abs_sub_comm z y ▸ le_abs_self _

end Numeric

namespace Channel

variable {c d : Channel}

/-! ## Patterns -/

/-- The exponent of a pattern, from 0 to 255. -/
def exponent (c : Channel) : Nat := c.bits.toNat / 8388608 % 256

/-- The stored part of the mantissa. -/
def fraction (c : Channel) : Nat := c.bits.toNat % 8388608

/-- The last exponent is kept for infinities and for what is no number. -/
def IsFinite (c : Channel) : Prop := c.exponent < 255

def sign (c : Channel) : Int := if c.bits.toNat < 2147483648 then 1 else -1

/-- The mantissa, whose leading bit is not stored unless the exponent is zero. -/
def mantissa (c : Channel) : Nat :=
  if c.exponent = 0 then c.fraction else 8388608 + c.fraction

/-- The place of the mantissa's last bit. -/
def unit (c : Channel) : Int := if c.exponent = 0 then -149 else c.exponent - 150

/-- The number that a finite pattern stands for. -/
def value (c : Channel) : ℚ := (c.sign * c.mantissa : Int) * 2 ^ c.unit

/-- `c` is the number nearest to `x`; every other is farther away. -/
structure IsNearest (c : Channel) (x : ℚ) : Prop where
  finite : c.IsFinite
  closest : ∀ d : Channel, d.IsFinite → d.value ≠ c.value → |c.value - x| < |d.value - x|

theorem fraction_lt (c : Channel) : c.fraction < 8388608 := Nat.mod_lt _ (by decide)

theorem mantissa_lt (c : Channel) : c.mantissa < 2 ^ 24 := by
  have := c.fraction_lt
  rw [mantissa]
  split <;> omega

theorem abs_value (c : Channel) : |c.value| = c.mantissa * 2 ^ c.unit := by
  have sign : |(c.sign : ℚ)| = 1 := by
    rw [Channel.sign]
    split <;> simp
  have unit_pos : (0 : ℚ) < 2 ^ c.unit := zpow_pos two_pos _
  rw [value, Int.cast_mul, abs_mul, abs_mul, sign, one_mul, abs_of_pos unit_pos, Int.cast_natCast,
    abs_of_nonneg (Nat.cast_nonneg _)]

/-- **Numbers of magnitude `2 ^ (e + 23)` and more are multiples of `2 ^ e`.** -/
theorem value_on_grid (c : Channel) (e : Int) :
    (∃ j : ℤ, c.value = j * 2 ^ e) ∨ |c.value| < 2 ^ (e + 23) := by
  rcases le_or_gt e c.unit with le | gt
  · left
    refine ⟨c.sign * c.mantissa * 2 ^ (c.unit - e).toNat, ?_⟩
    rw [value, Int.cast_mul _ (2 ^ _), Int.cast_pow, Int.cast_ofNat, mul_assoc, ← zpow_natCast,
      Int.toNat_of_nonneg (Int.sub_nonneg_of_le le), ← zpow_add₀ two_ne_zero, Int.sub_add_cancel]
  · right
    have unit_pos : (0 : ℚ) < 2 ^ c.unit := zpow_pos two_pos _
    calc |c.value| = c.mantissa * 2 ^ c.unit := c.abs_value
      _ < 2 ^ (24 : ℤ) * 2 ^ c.unit := by
          refine mul_lt_mul_of_pos_right ?_ unit_pos
          exact_mod_cast c.mantissa_lt
      _ = 2 ^ (24 + c.unit) := (zpow_add₀ two_ne_zero _ _).symm
      _ ≤ 2 ^ (e + 23) := zpow_le_zpow_right₀ one_le_two (by omega)

theorem value_full : full.value = 1 := by
  have exponent : full.exponent = 127 := by decide
  have fraction : full.fraction = 0 := by decide
  have sign : full.sign = 1 := by decide
  rw [value, mantissa, unit, exponent, fraction, sign]
  norm_num

/-! ## Equality -/

theorem toNat_magnitude (c : Channel) :
    (c.bits &&& 0x7fffffff).toNat = c.bits.toNat % 2147483648 := by
  rw [UInt32.toNat_and]
  exact Nat.and_two_pow_sub_one_eq_mod _ 31

theorem isNaN_of_isFinite (finite : c.IsFinite) : c.isNaN = false := by
  rw [IsFinite, exponent] at finite
  rw [isNaN, decide_eq_false_iff_not, UInt32.lt_iff_toNat_lt, toNat_magnitude]
  have last : (0x7f800000 : UInt32).toNat = 2139095040 := rfl
  omega

theorem value_of_isZero (zero : c.isZero = true) : c.value = 0 := by
  have bits : c.bits.toNat % 2147483648 = 0 := by
    rw [← toNat_magnitude, eq_of_beq zero]
    rfl
  have exponent : c.exponent = 0 := by
    rw [Channel.exponent]
    omega
  have fraction : c.fraction = 0 := by
    rw [Channel.fraction]
    omega
  rw [value, mantissa, if_pos exponent, fraction]
  simp

/-- **Patterns that are the same stand for one number.** -/
theorem value_eq_of_same (h : c.same d = true) : c.value = d.value := by
  simp only [same, Bool.and_eq_true, Bool.or_eq_true, beq_iff_eq] at h
  obtain ⟨-, bits | ⟨zero, zero'⟩⟩ := h
  · have : c = d := by
      cases c
      cases d
      exact congrArg Channel.mk bits
    rw [this]
  · rw [value_of_isZero zero, value_of_isZero zero']

theorem same_self (finite : c.IsFinite) : c.same c = true := by
  simp [same, isNaN_of_isFinite finite]

/-! ## Rounding -/

/-- **The pattern stands for what it was made of.**  A mantissa that rounding carried into one bit
    more raises the exponent. -/
theorem value_ofScaled {s : Scaled} (low : 2 ^ 23 ≤ s.mantissa) (high : s.mantissa ≤ 2 ^ 24)
    (least : -149 ≤ s.exponent) (most : s.exponent ≤ 103) :
    (ofScaled s).IsFinite ∧ (ofScaled s).value = s.toFraction.value := by
  obtain ⟨m, e⟩ := s
  dsimp only at low high least most
  obtain ⟨k, rfl⟩ : ∃ k : Nat, e = k - 149 := ⟨(e + 149).toNat, by omega⟩
  have bits : (ofScaled ⟨m, k - 149⟩).bits.toNat = k * 8388608 + m := by
    rw [ofScaled, if_neg (by simp only; omega), Int.sub_add_cancel, Int.toNat_natCast,
      UInt32.toNat_ofNat_of_lt']
    show k * 8388608 + m < 4294967296
    omega
  have sign : (ofScaled ⟨m, k - 149⟩).sign = 1 := by
    rw [Channel.sign, if_pos (by omega)]
  rw [Scaled.value_toFraction, IsFinite, value, sign, one_mul, Int.cast_natCast]
  rcases Nat.lt_or_eq_of_le high with less | carried
  · have exponent : (ofScaled ⟨m, k - 149⟩).exponent = k + 1 := by
      rw [Channel.exponent]
      omega
    have mantissa : (ofScaled ⟨m, k - 149⟩).mantissa = m := by
      rw [Channel.mantissa, if_neg (by omega), fraction]
      omega
    have unit : (ofScaled ⟨m, k - 149⟩).unit = k - 149 := by
      rw [Channel.unit, if_neg (by omega)]
      omega
    exact ⟨by omega, by rw [mantissa, unit]⟩
  · -- the bit carried leaves the fraction empty and counts one exponent up
    have exponent : (ofScaled ⟨m, k - 149⟩).exponent = k + 2 := by
      rw [Channel.exponent]
      omega
    have mantissa : (ofScaled ⟨m, k - 149⟩).mantissa = 2 ^ 23 := by
      rw [Channel.mantissa, if_neg (by omega), fraction]
      omega
    have unit : (ofScaled ⟨m, k - 149⟩).unit = k - 149 + 1 := by
      rw [Channel.unit, if_neg (by omega)]
      omega
    refine ⟨by omega, ?_⟩
    rw [mantissa, unit, carried, zpow_add_one₀ two_ne_zero]
    push_cast
    ring

/-- **A pattern for a rounded value is nearest to the value**, if that is not halfway between
    two. -/
theorem isNearest_of_rounded {x : Fraction} (pos : 0 < x.value) (finite : c.IsFinite)
    (rounded : c.value = (x.rounded 24).value)
    (clear : ∀ n : ℤ, x.value / 2 ^ x.unit 24 ≠ n + 1 / 2) : c.IsNearest x.value := by
  refine ⟨finite, fun d _ differ => ?_⟩
  have unit_pos : (0 : ℚ) < 2 ^ x.unit 24 := zpow_pos two_pos _
  have nearest := x.nearest_inUnits (x.unit 24)
  rw [Fraction.value_rounded pos] at rounded
  -- all is measured in units of `x`, of which the numbers of its magnitude have a whole number
  have units (z : ℚ) : |z * 2 ^ x.unit 24 - x.value| =
      |z - x.value / 2 ^ x.unit 24| * 2 ^ x.unit 24 := by
    rw [← abs_of_pos unit_pos, ← abs_mul, abs_of_pos unit_pos, sub_mul,
      div_mul_cancel₀ _ unit_pos.ne']
  have half := nearest.abs_sub_lt_half clear
  obtain ⟨j, grid⟩ | small := d.value_on_grid (x.unit 24)
  · have ne : j ≠ x.inUnits (x.unit 24) := by
      rintro rfl
      exact differ (by rw [grid, rounded, Int.cast_natCast])
    rw [rounded, grid, ← Int.cast_natCast, units, units]
    exact mul_lt_mul_of_pos_right (Numeric.abs_sub_lt_abs_sub half ne) unit_pos
  · have lower := (Fraction.log2_bounds pos).1
    rw [Fraction.zpow_log2 (show 0 < 24 by decide)] at lower
    have least : ((2 ^ 23 : ℤ) : ℚ) ≤ x.value / 2 ^ x.unit 24 :=
      (le_div_iff₀ unit_pos).2 (by exact_mod_cast lower)
    have less : d.value / 2 ^ x.unit 24 < (2 ^ 23 : ℤ) := by
      rw [div_lt_iff₀ unit_pos]
      refine (le_abs_self _).trans_lt (small.trans_le (le_of_eq ?_))
      rw [show x.unit 24 + 23 = x.unit 24 + (23 : Nat) from rfl, Fraction.zpow_unit_add]
      norm_num
    rw [rounded, ← Int.cast_natCast, units, ← div_mul_cancel₀ d.value unit_pos.ne', units]
    exact mul_lt_mul_of_pos_right (Numeric.abs_sub_lt_of_lt half least less) unit_pos

/-! ## Bytes -/

/-- A byte's share of 255. -/
def share (k : Nat) : Fraction := ⟨k, 255, Nat.succ_pos 254⟩

theorem value_share (k : Nat) : (share k).value = k / 255 := rfl

/-- A share is nowhere halfway between two numbers, as 255 is odd. -/
theorem share_clear (k : Nat) {u : Int} (le : u ≤ 0) (n : ℤ) :
    (share k).value / 2 ^ u ≠ n + 1 / 2 := by
  intro halfway
  obtain ⟨s, rfl⟩ : ∃ s : Nat, u = -s := ⟨(-u).toNat, by omega⟩
  rw [value_share, zpow_neg, zpow_natCast, div_inv_eq_mul] at halfway
  have cleared : (2 * (k * 2 ^ s) : ℚ) = 255 * (2 * n + 1) := by linear_combination 510 * halfway
  have whole : 2 * ((k * 2 ^ s : Nat) : ℤ) = 255 * (2 * n + 1) := by exact_mod_cast cleared
  omega

section
variable {k : Nat} (pos : 0 < k) (hk : k ≤ 255)
include pos

theorem share_pos : 0 < (share k).value := by
  have : (0 : ℚ) < k := Nat.cast_pos.2 pos
  rw [value_share]
  positivity

include hk

theorem log2_share : -8 ≤ (share k).log2 ∧ (share k).log2 ≤ 0 := by
  obtain ⟨lower, upper⟩ := Fraction.log2_bounds (share_pos pos)
  have least : (1 : ℚ) ≤ k := by exact_mod_cast pos
  have most : (k : ℚ) ≤ 255 := by exact_mod_cast hk
  rw [value_share] at lower upper
  constructor
  · have : (2 : ℚ) ^ (-8 : ℤ) < 2 ^ ((share k).log2 + 1) := by
      refine lt_of_lt_of_le ?_ (upper.le)
      norm_num
      linarith
    have := (zpow_lt_zpow_iff_right₀ one_lt_two).1 this
    omega
  · have : (2 : ℚ) ^ (share k).log2 ≤ 2 ^ (0 : ℤ) := by
      refine lower.trans ?_
      rw [zpow_zero, div_le_one (by norm_num)]
      exact most
    exact (zpow_le_zpow_iff_right₀ one_lt_two).1 this

theorem ofByte_of_pos :
    (ofByte k).IsFinite ∧ (ofByte k).value = ((share k).rounded 24).value := by
  obtain ⟨least, most⟩ := log2_share pos hk
  obtain ⟨low, high⟩ := Fraction.inUnits_bounds (share_pos pos) (show 0 < 24 by decide)
  have round : (share k).round 24 =
      ⟨(share k).inUnits ((share k).unit 24), (share k).unit 24⟩ := by
    rw [Fraction.round, if_neg (show (share k).num ≠ 0 from pos.ne')]
  have unit : (share k).unit 24 = (share k).log2 - 23 := by
    rw [Fraction.unit]
    omega
  show (ofScaled ((share k).round 24)).IsFinite ∧ (ofScaled ((share k).round 24)).value = _
  rw [Fraction.rounded, round]
  exact value_ofScaled low high (by dsimp only; omega) (by dsimp only; omega)

end

theorem value_ofByte_zero : (ofByte 0).IsFinite ∧ (ofByte 0).value = 0 := by
  have finite : (ofByte 0).exponent < 255 := by decide
  exact ⟨finite, value_of_isZero (by decide)⟩

/-- **The intensity of a byte is the number nearest to its share of 255.** -/
theorem isNearest_ofByte {k : Nat} (hk : k ≤ 255) : (ofByte k).IsNearest (k / 255) := by
  rcases Nat.eq_zero_or_pos k with rfl | pos
  · obtain ⟨finite, value⟩ := value_ofByte_zero
    refine ⟨finite, fun d _ differ => ?_⟩
    rw [value] at differ ⊢
    simpa using differ
  · obtain ⟨finite, value⟩ := ofByte_of_pos pos hk
    have unit : (share k).unit 24 ≤ 0 := by
      have := (log2_share pos hk).2
      rw [Fraction.unit]
      omega
    exact isNearest_of_rounded (share_pos pos) finite value (share_clear k unit)

theorem abs_value_ofByte_sub_lt {k : Nat} (hk : k ≤ 255) :
    |(ofByte k).value - k / 255| < 1 / 510 := by
  rcases Nat.eq_zero_or_pos k with rfl | pos
  · rw [value_ofByte_zero.2]
    norm_num
  · have most : (k : ℚ) ≤ 255 := by exact_mod_cast hk
    have near := Fraction.abs_rounded_sub_le 24 (share k)
    rw [← (ofByte_of_pos pos hk).2, value_share] at near
    refine near.trans_lt ?_
    norm_num
    linarith

/-- **No two bytes have one intensity.** -/
theorem same_ofByte_iff {j k : Nat} (hj : j ≤ 255) (hk : k ≤ 255) :
    (ofByte j).same (ofByte k) = true ↔ j = k := by
  constructor
  · intro h
    have hj' := abs_lt.1 (abs_value_ofByte_sub_lt hj)
    have hk' := abs_lt.1 (abs_value_ofByte_sub_lt hk)
    rw [value_eq_of_same h] at hj'
    have below : (j : ℚ) < k + 1 := by linarith
    have above : (k : ℚ) < j + 1 := by linarith
    norm_cast at below above
    omega
  · rintro rfl
    exact same_self (isNearest_ofByte hj).finite

end Channel

/-! ## Colours -/

namespace Color

variable {g h : UInt32}

theorem toNat_and_byte (h : UInt32) : (h &&& 0xff).toNat = h.toNat % 256 := by
  rw [UInt32.toNat_and]
  exact Nat.and_two_pow_sub_one_eq_mod _ 8

theorem ofRgb_eq (h : UInt32) :
    ofRgb h = ⟨.ofByte (h.toNat / 65536 % 256), .ofByte (h.toNat / 256 % 256),
      .ofByte (h.toNat % 256), .full⟩ := by
  rw [ofRgb, toNat_and_byte, toNat_and_byte, toNat_and_byte, UInt32.toNat_shiftRight,
    UInt32.toNat_shiftRight, Nat.shiftRight_eq_div_pow, Nat.shiftRight_eq_div_pow]
  rfl

/-- **No two words of three bytes have one colour.** -/
theorem same_ofRgb_iff :
    (ofRgb g).same (ofRgb h) = true ↔ g.toNat % 16777216 = h.toNat % 16777216 := by
  have byte (n : Nat) : n % 256 ≤ 255 := by omega
  have alpha : Channel.full.same .full = true := by decide
  rw [ofRgb_eq, ofRgb_eq, same, alpha, Bool.and_true, Bool.and_eq_true, Bool.and_eq_true,
    Channel.same_ofByte_iff (byte _) (byte _), Channel.same_ofByte_iff (byte _) (byte _),
    Channel.same_ofByte_iff (byte _) (byte _)]
  omega

theorem ofRgb_congr (same : g.toNat % 16777216 = h.toNat % 16777216) : ofRgb g = ofRgb h := by
  have red : g.toNat / 65536 % 256 = h.toNat / 65536 % 256 := by omega
  have green : g.toNat / 256 % 256 = h.toNat / 256 % 256 := by omega
  have blue : g.toNat % 256 = h.toNat % 256 := by omega
  rw [ofRgb_eq, ofRgb_eq, red, green, blue]

end Color

end MarkerStrip
