/-
  How far an offset is from the exact one.

  The exact offset of a line is its share of the document, and never more than
  the whole, of the usable height.  The computed one goes through five
  roundings to 53 bits before it is rounded to a whole pixel.

  * `Fraction.Drift p k`: at most `k` roundings to `p` bits lie between two
    values, and every operation adds up those behind its operands;
  * `Metrics.drift_scaled`: five lie between the computed and the exact offset,
    which makes less than `2 ^ -18` on any strip (`Metrics.abs_scaled_sub_lt`);
  * `Tie.Nearest.abs_sub_lt`: so an exact offset that keeps this distance from
    every half is rounded to the pixel nearest to it.
-/
import Mathlib.Tactic.LinearCombination
import Mathlib.Tactic.NormNum
import MarkerStrip.Proofs.Layout

namespace MarkerStrip

namespace Numeric

/-! ## One rounding -/

/-- The factor that one rounding to `p` bits stays within, upwards and downwards. -/
def slack (p : Nat) : ℚ := 2 ^ p / (2 ^ p - 1)

section
variable {p : Nat} (hp : 0 < p)
include hp

theorem two_pow_sub_one_pos : (0 : ℚ) < 2 ^ p - 1 :=
  sub_pos.2 (one_lt_pow₀ one_lt_two hp.ne')

theorem one_le_slack_pow (k : Nat) : 1 ≤ slack p ^ k := by
  refine one_le_pow₀ ?_
  rw [slack, le_div_iff₀ (two_pow_sub_one_pos hp)]
  linarith

end

/-! ## Several roundings -/

namespace Fraction

/-- `x` and `y` differ by no more than `k` roundings to `p` bits make between two values. -/
structure Drift (p k : Nat) (x y : Fraction) : Prop where
  le : x.value ≤ slack p ^ k * y.value
  ge : y.value ≤ slack p ^ k * x.value

namespace Drift
variable {p k l : Nat} {x y z w : Fraction}

theorem symm (h : Drift p k x y) : Drift p k y x := ⟨h.ge, h.le⟩

theorem map {f : Fraction → Fraction} (h : Drift p k x y) (bound : ∀ {x y : Fraction},
    x.value ≤ slack p ^ k * y.value → (f x).value ≤ slack p ^ k * (f y).value) :
    Drift p k (f x) (f y) :=
  ⟨bound h.le, bound h.ge⟩

theorem mul (h : Drift p k x y) (z : Fraction) : Drift p k (x.mul z) (y.mul z) := by
  refine h.map (f := fun x => x.mul z) fun le => ?_
  rw [value_mul, value_mul, ← mul_assoc]
  exact mul_le_mul_of_nonneg_right le z.value_nonneg

variable (hp : 0 < p)
include hp

theorem trans (h : Drift p k x y) (h' : Drift p l y z) : Drift p (k + l) x z := by
  have le {k l : Nat} {x y z : Fraction} (h : Drift p k x y) (h' : Drift p l y z) :
      x.value ≤ slack p ^ (k + l) * z.value :=
    calc x.value ≤ slack p ^ k * y.value := h.le
      _ ≤ slack p ^ k * (slack p ^ l * z.value) :=
        mul_le_mul_of_nonneg_left h'.le (one_pos.le.trans (one_le_slack_pow hp k))
      _ = slack p ^ (k + l) * z.value := by ring
  exact ⟨le h h', add_comm k l ▸ le h'.symm h.symm⟩

theorem of_rounded (x : Fraction) : Drift p 1 (x.rounded p) x := by
  have pos := two_pow_sub_one_pos hp
  have error := abs_le.1 (x.abs_rounded_sub_le p)
  have part : 2 ^ p * (x.value / 2 ^ p) = x.value := mul_div_cancel₀ _ (by positivity)
  have part_nonneg : 0 ≤ x.value / 2 ^ p := div_nonneg x.value_nonneg (by positivity)
  constructor
  · rw [pow_one, slack, div_mul_eq_mul_div, le_div_iff₀ pos]
    calc (x.rounded p).value * (2 ^ p - 1)
        ≤ (x.value + x.value / 2 ^ p) * (2 ^ p - 1) :=
          mul_le_mul_of_nonneg_right (by linarith) pos.le
      _ = 2 ^ p * x.value - x.value / 2 ^ p := by linear_combination part
      _ ≤ 2 ^ p * x.value := by linarith
  · rw [pow_one, slack, div_mul_eq_mul_div, le_div_iff₀ pos]
    calc x.value * (2 ^ p - 1) = 2 ^ p * (x.value - x.value / 2 ^ p) := by
          linear_combination part
      _ ≤ 2 ^ p * (x.rounded p).value :=
          mul_le_mul_of_nonneg_left (by linarith) (by positivity)

theorem rounded (h : Drift p k x y) : Drift p (k + 1) (x.rounded p) y :=
  add_comm 1 k ▸ (of_rounded hp x).trans hp h

theorem add (h : Drift p k x y) (z : Fraction) : Drift p k (x.add z) (y.add z) := by
  refine h.map (f := fun x => x.add z) fun le => ?_
  rw [value_add, value_add, mul_add]
  exact add_le_add le (le_mul_of_one_le_left z.value_nonneg (one_le_slack_pow hp k))

theorem min (h : Drift p k x y) (z : Fraction) : Drift p k (x.min z) (y.min z) := by
  have one_le := one_le_slack_pow hp k
  refine h.map (f := fun x => x.min z) fun le => ?_
  rw [value_min, value_min, mul_min_of_nonneg _ _ (one_pos.le.trans one_le)]
  exact min_le_min le (le_mul_of_one_le_left z.value_nonneg one_le)

theorem div (h : Drift p k x y) (h' : Drift p l z w) : Drift p (k + l) (x.div z) (y.div w) := by
  have nonneg (k : Nat) : 0 ≤ slack p ^ k := one_pos.le.trans (one_le_slack_pow hp k)
  have le {x y z w : Fraction} (h : Drift p k x y) (h' : Drift p l z w) :
      (x.div z).value ≤ slack p ^ (k + l) * (y.div w).value := by
    rw [value_div, value_div]
    have share_nonneg : 0 ≤ y.value / w.value := div_nonneg y.value_nonneg w.value_nonneg
    rcases z.value_nonneg.eq_or_lt with zero | pos
    · -- the quotient by zero is zero
      rw [← zero, div_zero]
      exact mul_nonneg (nonneg _) share_nonneg
    have w_ne : w.value ≠ 0 := by
      intro zero
      have := h'.le
      rw [zero, mul_zero] at this
      exact pos.not_ge this
    rw [div_le_iff₀ pos]
    calc x.value ≤ slack p ^ k * y.value := h.le
      _ = slack p ^ k * (y.value / w.value) * w.value := by rw [mul_assoc, div_mul_cancel₀ _ w_ne]
      _ ≤ slack p ^ k * (y.value / w.value) * (slack p ^ l * z.value) :=
        mul_le_mul_of_nonneg_left h'.ge (mul_nonneg (nonneg k) share_nonneg)
      _ = slack p ^ (k + l) * (y.value / w.value) * z.value := by ring
  exact ⟨le h h', le h.symm h'.symm⟩

/-- What `k` roundings change is a small part of the value. -/
theorem abs_sub_le (h : Drift p k x y) : |x.value - y.value| ≤ (slack p ^ k - 1) * y.value := by
  have one_le := one_le_slack_pow hp k
  -- each is bounded by a part of the other, and the part of the lesser is the lesser part
  rcases le_total x.value y.value with less | more
  · calc |x.value - y.value| = y.value - x.value := by rw [abs_sub_comm, abs_of_nonneg (by linarith)]
      _ ≤ (slack p ^ k - 1) * x.value := by linarith [h.ge]
      _ ≤ (slack p ^ k - 1) * y.value := mul_le_mul_of_nonneg_left less (by linarith)
  · rw [abs_of_nonneg (by linarith)]
    linarith [h.le]

end Drift

end Fraction

/-! ## The nearest natural -/

namespace Tie.Nearest
variable {tie : Tie} {x y δ : ℚ} {m : Nat}

/-- **Rounding a number near `y` rounds `y`,** where `y` is farther from every half. -/
theorem abs_sub_lt (h : tie.Nearest x m) (near : |x - y| < δ)
    (clear : ∀ k : ℤ, δ ≤ |y - (k + 1 / 2)|) : |(m : ℚ) - y| < 1 / 2 := by
  obtain ⟨below, above⟩ := abs_lt.1 near
  by_contra far
  rcases le_abs.1 (not_lt.1 far) with low | high
  · -- `y` is at or below the half under `m`, and `x` is not
    have half := clear (m - 1)
    push_cast at half
    rw [abs_of_nonpos (by linarith)] at half
    linarith [h.sub_le]
  · -- `y` is at or above the half over `m`, and `x` is not
    have half := clear m
    push_cast at half
    rw [abs_of_nonneg (by linarith)] at half
    linarith [h.le_add]

end Tie.Nearest

end Numeric

namespace Metrics

open Numeric (Fraction)
open Numeric.Fraction (Drift)

/-! ## Offsets -/

/-- A line's share of the document, and never more than the whole. -/
def share (line total : UInt64) : Fraction :=
  (((Fraction.ofNat line.toNat).add (.ofNat 1)).div (.ofNat (max total.toNat 1))).min (.ofNat 1)

/-- The exact offset of a line. -/
def ideal (m : Metrics) (line total : UInt64) (height : UInt32) : Fraction :=
  (share line total).mul (.ofNat (m.usable height))

/-- The offset that is rounded to a whole pixel. -/
def scaled (m : Metrics) (line total : UInt64) (height : UInt32) : Fraction :=
  ((position line total).mul (.ofNat (m.usable height))).rounded 53

section
variable (m : Metrics) (line total : UInt64) (height : UInt32)

theorem value_ideal : (m.ideal line total height).value =
    min ((line.toNat + 1 : ℚ) / (max total.toNat 1 : ℕ)) 1 * m.usable height := by
  simp [ideal, share]

theorem drift_position : Drift 53 4 (position line total) (share line total) := by
  have bits : 0 < 53 := by decide
  have number : Drift 53 2 (lineNumber line) ((Fraction.ofNat line.toNat).add (.ofNat 1)) :=
    ((Drift.of_rounded bits _).add bits _).rounded bits
  have lines : Drift 53 1 (divisor total) (.ofNat (max total.toNat 1)) := Drift.of_rounded bits _
  exact ((number.div bits lines).rounded bits).min bits _

/-- **Five roundings lie between the computed and the exact offset.** -/
theorem drift_scaled : Drift 53 5 (m.scaled line total height) (m.ideal line total height) :=
  ((drift_position line total).mul _).rounded (by decide)

/-- On a strip of at most `2 ^ 32` pixels they make less than `2 ^ -18`. -/
theorem abs_scaled_sub_lt :
    |(m.scaled line total height).value - (m.ideal line total height).value| < 1 / 2 ^ 18 := by
  have ideal_le : (m.ideal line total height).value ≤ 2 ^ 32 := by
    have usable : (m.usable height : ℚ) ≤ 2 ^ 32 := by exact_mod_cast (m.usable_lt height).le
    rw [value_ideal]
    exact (mul_le_of_le_one_left (Nat.cast_nonneg _) (min_le_right _ _)).trans usable
  have one_le := Numeric.one_le_slack_pow (p := 53) (by decide) 5
  calc |(m.scaled line total height).value - (m.ideal line total height).value|
      ≤ (Numeric.slack 53 ^ 5 - 1) * (m.ideal line total height).value :=
        (m.drift_scaled line total height).abs_sub_le (by decide)
    _ ≤ (Numeric.slack 53 ^ 5 - 1) * 2 ^ 32 :=
        mul_le_mul_of_nonneg_left ideal_le (by linarith)
    _ < 1 / 2 ^ 18 := by norm_num [Numeric.slack]

theorem nearest_pixel :
    Numeric.Tie.up.Nearest (m.scaled line total height).value (m.pixel line total height) :=
  (m.scaled line total height).nearest_nearestNat .up

theorem abs_pixel_sub_le : |(m.pixel line total height : ℚ) -
    (m.ideal line total height).value| ≤ 1 / 2 + 1 / 2 ^ 18 := by
  obtain ⟨below, above⟩ := abs_lt.1 (m.abs_scaled_sub_lt line total height)
  have nearest := m.nearest_pixel line total height
  rw [abs_le]
  constructor
  · linarith [nearest.le_add]
  · linarith [nearest.sub_le]

/-- Where the exact offset keeps clear of every half, no other pixel is as near to it. -/
theorem abs_pixel_sub_lt
    (clear : ∀ k : ℤ, 1 / 2 ^ 18 ≤ |(m.ideal line total height).value - (k + 1 / 2)|) {k : ℤ}
    (ne : k ≠ m.pixel line total height) :
    |(m.pixel line total height : ℚ) - (m.ideal line total height).value| <
      |k - (m.ideal line total height).value| :=
  Numeric.abs_sub_lt_abs_sub
    ((m.nearest_pixel line total height).abs_sub_lt (m.abs_scaled_sub_lt line total height) clear) ne

/-- **Lines at or past the last one are at the bottom of the usable height.** -/
theorem pixel_of_past (past : max total.toNat 1 ≤ line.toNat + 1) :
    m.pixel line total height = m.usable height := by
  have whole : (m.ideal line total height).value = m.usable height := by
    have lines_pos : (0 : ℚ) < (max total.toNat 1 : ℕ) := Nat.cast_pos.2 (by omega)
    have one_le : 1 ≤ (line.toNat + 1 : ℚ) / (max total.toNat 1 : ℕ) :=
      (one_le_div lines_pos).2 (by exact_mod_cast past)
    rw [value_ideal, min_eq_right one_le, one_mul]
  -- a whole number is half a pixel away from every half
  have clear (k : ℤ) : 1 / 2 ^ 18 ≤ |(m.ideal line total height).value - (k + 1 / 2)| := by
    rw [whole, le_abs]
    rcases le_or_gt (m.usable height : ℤ) k with low | high
    · have : (m.usable height : ℚ) ≤ k := by exact_mod_cast low
      right
      linarith
    · have : (k + 1 : ℚ) ≤ m.usable height := by exact_mod_cast high
      left
      linarith
  by_contra ne
  have nearer := m.abs_pixel_sub_lt line total height clear (k := m.usable height) (by omega)
  rw [whole, Int.cast_natCast, sub_self, abs_zero] at nearer
  exact nearer.not_ge (abs_nonneg _)

end

/-- **Offsets are accurate.**  An offset is as near to the exact one as rounding to whole pixels
    allows, but for `2 ^ -18`; where the exact one keeps this distance from every half, the offset is
    the nearest pixel; and all lines at or past the last one have the whole usable height. -/
theorem offset_near_exact (m : Metrics) (line total : UInt64) (height : UInt32) :
    let n : ℚ := line.toNat + 1
    let T : ℚ := (max total.toNat 1 : ℕ)
    let U : ℕ := height.toNat - m.bottomMargin.toNat
    let E : ℚ := min (n / T) 1 * U
    let y : ℕ := (m.offset line total height).toNat
    |y - E| ≤ 1 / 2 + 1 / 2 ^ 18 ∧
      ((∀ k : ℤ, 1 / 2 ^ 18 ≤ |E - (k + 1 / 2)|) → ∀ k : ℤ, k ≠ y → |y - E| < |k - E|) ∧
      (T ≤ n → y = U) := by
  intro n T U E y
  have pixel : y = m.pixel line total height := m.toNat_offset ..
  have value : E = (m.ideal line total height).value := (m.value_ideal ..).symm
  rw [pixel, value]
  refine ⟨m.abs_pixel_sub_le .., fun clear k ne => m.abs_pixel_sub_lt _ _ _ clear ne, ?_⟩
  intro past
  have past : ((max total.toNat 1 : ℕ) : ℚ) ≤ line.toNat + 1 := past
  exact m.pixel_of_past line total height (by exact_mod_cast past)

/-- A line that is not told from the one before it, on the highest strip; and the line after it as
    the last of a document, whose place comes out above the end. -/
theorem offset_near_exact_huge :
    let m : Metrics := ⟨0⟩
    let line : UInt64 := 9007199254740992
    let total : UInt64 := 18446744073709551615
    let height : UInt32 := 4294967295
    let E : ℚ := min ((line.toNat + 1 : ℚ) / (max total.toNat 1 : ℕ)) 1 *
      (height.toNat - m.bottomMargin.toNat : ℕ)
    let y : ℕ := (m.offset line total height).toNat
    (∀ k : ℤ, 1 / 2 ^ 18 ≤ |E - (k + 1 / 2)|) ∧ (∀ k : ℤ, k ≠ y → |y - E| < |k - E|) ∧
      y = 2097152 ∧ (position (line + 1) (line + 2)).value < 1 ∧
      (m.offset (line + 1) (line + 2) height).toNat = 4294967295 := by
  intro m line total height E y
  have value : E = 9007199254740993 / 18446744073709551615 * 4294967295 := by
    have lines : line.toNat = 9007199254740992 ∧ total.toNat = 18446744073709551615 := ⟨rfl, rfl⟩
    have usable : height.toNat - m.bottomMargin.toNat = 4294967295 := rfl
    simp only [E, lines, usable]
    norm_num
  have clear (k : ℤ) : 1 / 2 ^ 18 ≤ |E - (k + 1 / 2)| := by
    rw [value, le_abs]
    rcases le_or_gt 2097152 k with low | high
    · have : (2097152 : ℚ) ≤ k := by exact_mod_cast low
      right
      linarith
    · have : (k + 1 : ℚ) ≤ 2097152 := by exact_mod_cast high
      left
      linarith
  have short : (Fraction.ofNat 1).le (position (line + 1) (line + 2)) = false := by decide +kernel
  have last : max (line + 2).toNat 1 ≤ (line + 1).toNat + 1 := by decide +kernel
  refine ⟨clear, (offset_near_exact m line total height).2.1 clear, by decide +kernel, ?_, ?_⟩
  · rw [← not_le, ← Nat.cast_one, ← Fraction.value_ofNat, ← Fraction.le_iff, short]
    exact Bool.false_ne_true
  · exact (offset_near_exact m (line + 1) (line + 2) height).2.2 (by exact_mod_cast last)

end Metrics

end MarkerStrip
