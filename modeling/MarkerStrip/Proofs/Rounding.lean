/-
  Rounding keeps the order, leaves alone what is round already, and changes
  little.

  Fractions stand for rational numbers, and all that is said of rounding is
  said of their values.

  * `Tie.Nearest` says which natural is the nearest to a rational, and
    `Fraction.nearest_nearestNat` that rounding a fraction finds it;
  * `Fraction.nearestNat_mono` and `Fraction.rounded_mono`: a greater value is
    not rounded to a lesser one;
  * `Fraction.value_rounded_of_eq`: a value with few enough bits is left alone;
  * `Fraction.abs_rounded_sub_le`: rounding to `p` bits changes a value by at
    most its `2 ^ p`-th part.
-/
import Mathlib.Algebra.Order.Field.Power
import Mathlib.Algebra.Order.Ring.Rat
import Mathlib.Tactic.FieldSimp
import Mathlib.Tactic.Linarith
import Mathlib.Tactic.Positivity
import Mathlib.Tactic.Ring
import MarkerStrip.Numeric.Rounding

namespace MarkerStrip.Numeric

/-! ## Values -/

namespace Fraction

/-- The rational number that a fraction stands for. -/
def value (x : Fraction) : ℚ := x.num / x.den

variable {x y : Fraction}

theorem den_pos_rat (x : Fraction) : (0 : ℚ) < x.den := Nat.cast_pos.2 x.den_pos

theorem value_nonneg (x : Fraction) : 0 ≤ x.value := by
  unfold value
  positivity

theorem value_eq_zero_iff : x.value = 0 ↔ x.num = 0 := by
  rw [value, div_eq_zero_iff, Nat.cast_eq_zero, or_iff_left x.den_pos_rat.ne']

@[simp]
theorem value_ofNat (n : Nat) : (ofNat n).value = n := by simp [value, ofNat]

@[simp]
theorem value_add (x y : Fraction) : (x.add y).value = x.value + y.value := by
  simp only [value, add, Nat.cast_add, Nat.cast_mul]
  rw [div_add_div _ _ x.den_pos_rat.ne' y.den_pos_rat.ne', mul_comm (y.num : ℚ)]

@[simp]
theorem value_mul (x y : Fraction) : (x.mul y).value = x.value * y.value := by
  simp only [value, mul, Nat.cast_mul]
  rw [div_mul_div_comm]

@[simp]
theorem value_div (x y : Fraction) : (x.div y).value = x.value / y.value := by
  unfold div
  split
  · simp only [value, Nat.cast_mul]
    rw [div_div_div_eq]
  · next h =>
    have zero : y.value = 0 := value_eq_zero_iff.2 (Nat.eq_zero_of_not_pos h)
    rw [zero, div_zero, value_ofNat, Nat.cast_zero]

theorem le_iff : x.le y = true ↔ x.value ≤ y.value := by
  rw [le, Nat.ble_eq, value, value, div_le_div_iff₀ x.den_pos_rat y.den_pos_rat]
  exact_mod_cast Iff.rfl

@[simp]
theorem value_min (x y : Fraction) : (x.min y).value = Min.min x.value y.value := by
  unfold min
  split
  · next h => exact (min_eq_left (le_iff.1 h)).symm
  · next h => exact (min_eq_right (le_of_not_ge fun h' => h (le_iff.2 h'))).symm

@[simp]
theorem value_shift2 (x : Fraction) (k : Int) : (x.shift2 k).value = x.value * 2 ^ k := by
  simp only [value, shift2, shift, Nat.pow_eq, Nat.cast_mul, Nat.cast_pow, Nat.cast_ofNat]
  rw [← div_mul_div_comm]
  congr 1
  rcases le_total 0 k with hk | hk
  · rw [Int.toNat_of_nonpos (by omega : -k ≤ 0), pow_zero, div_one, ← zpow_natCast,
      Int.toNat_of_nonneg hk]
  · rw [Int.toNat_of_nonpos hk, pow_zero, one_div, ← zpow_natCast,
      Int.toNat_of_nonneg (by omega : 0 ≤ -k), zpow_neg, inv_inv]

end Fraction

@[simp]
theorem Scaled.value_toFraction (s : Scaled) :
    s.toFraction.value = s.mantissa * 2 ^ s.exponent := by
  rw [toFraction, Fraction.value_shift2, Fraction.value_ofNat]

/-! ## Nearest naturals -/

/-- `m` is the natural nearest to `x`. -/
structure Tie.Nearest (tie : Tie) (x : ℚ) (m : Nat) : Prop where
  le_add : x ≤ m + 1 / 2
  sub_le : m - 1 / 2 ≤ x
  /-- Halfway to the next natural, `m` is the even one. -/
  even_below : x = m + 1 / 2 → tie = .even ∧ m % 2 = 0
  /-- Halfway from the natural before, so is `m`, unless a half goes up. -/
  even_above : x = m - 1 / 2 → tie = .even → m % 2 = 0

namespace Tie.Nearest
variable {tie : Tie} {x y : ℚ} {m k : Nat}

/-- A greater number has no lesser nearest natural. -/
theorem mono (hx : tie.Nearest x m) (hy : tie.Nearest y k) (h : x ≤ y) : m ≤ k := by
  by_contra hlt
  have gap : (k : ℚ) + 1 ≤ m := by exact_mod_cast Nat.lt_of_not_le hlt
  -- both numbers are halfway between `k` and its successor
  have hxm : x = m - 1 / 2 := by linarith [hx.sub_le, hy.le_add]
  have hyk : y = k + 1 / 2 := by linarith [hx.sub_le, hy.le_add]
  have next : m = k + 1 := by
    have : (m : ℚ) = k + 1 := by linarith
    exact_mod_cast this
  obtain ⟨even, hk⟩ := hy.even_below hyk
  have hm := hx.even_above hxm even
  omega

theorem le_of_le (hx : tie.Nearest x m) (h : x ≤ k) : m ≤ k := by
  by_contra hlt
  have gap : (k : ℚ) + 1 ≤ m := by exact_mod_cast Nat.lt_of_not_le hlt
  linarith [hx.sub_le]

theorem ge_of_ge (hx : tie.Nearest x m) (h : k ≤ x) : k ≤ m := by
  by_contra hlt
  have gap : (m : ℚ) + 1 ≤ k := by exact_mod_cast Nat.lt_of_not_le hlt
  linarith [hx.le_add]

end Tie.Nearest

/-- The same in whole numbers, for a quotient. -/
theorem Tie.nearest_div {tie : Tie} {n d m : Nat} (hd : 0 < d) (upper : 2 * n ≤ 2 * (m * d) + d)
    (lower : 2 * (m * d) ≤ 2 * n + d)
    (even_below : 2 * n = 2 * (m * d) + d → tie = .even ∧ m % 2 = 0)
    (even_above : 2 * (m * d) = 2 * n + d → tie = .even → m % 2 = 0) :
    tie.Nearest ((n : ℚ) / d) m := by
  have hd' : (0 : ℚ) < d := Nat.cast_pos.2 hd
  have upper' : (2 * n : ℚ) ≤ 2 * (m * d) + d := by exact_mod_cast upper
  have lower' : (2 * (m * d) : ℚ) ≤ 2 * n + d := by exact_mod_cast lower
  refine ⟨?_, ?_, fun h => even_below ?_, fun h => even_above ?_⟩
  · rw [div_le_iff₀ hd']
    linarith
  · rw [le_div_iff₀ hd']
    linarith
  · rw [div_eq_iff hd'.ne'] at h
    have : (2 * n : ℚ) = 2 * (m * d) + d := by linarith
    exact_mod_cast this
  · rw [div_eq_iff hd'.ne'] at h
    have : (2 * (m * d) : ℚ) = 2 * n + d := by linarith
    exact_mod_cast this

theorem nearest_nearestEven {n d : Nat} (hd : 0 < d) :
    Tie.even.Nearest ((n : ℚ) / d) (nearestEven n d) := by
  have split := Nat.div_add_mod' n d
  have small := Nat.mod_lt n hd
  have next := Nat.add_one_mul (n / d) d
  simp only [nearestEven]
  split
  · exact Tie.nearest_div hd (by omega) (by omega) (by omega) (by omega)
  · split
    · exact Tie.nearest_div hd (by omega) (by omega) (by omega) (by omega)
    · rcases Nat.mod_two_eq_zero_or_one (n / d) with even | odd
      · rw [even, Nat.add_zero]
        exact Tie.nearest_div hd (by omega) (by omega) (fun _ => ⟨rfl, even⟩) (by omega)
      · rw [odd]
        exact Tie.nearest_div hd (by omega) (by omega) (by omega) (fun _ _ => by omega)

theorem nearest_nearestUp {n d : Nat} (hd : 0 < d) :
    Tie.up.Nearest ((n : ℚ) / d) (nearestUp n d) := by
  have split := Nat.div_add_mod' (2 * n + d) (2 * d)
  have small := Nat.mod_lt (2 * n + d) (Nat.mul_pos Nat.two_pos hd)
  rw [Nat.mul_left_comm] at split
  simp only [nearestUp]
  exact Tie.nearest_div hd (by omega) (by omega) (by omega) nofun

/-- A whole number less than a half away is nearer than any other. -/
theorem abs_sub_lt_abs_sub {y : ℚ} {m k : ℤ} (h : |(m : ℚ) - y| < 1 / 2) (ne : k ≠ m) :
    |(m : ℚ) - y| < |(k : ℚ) - y| := by
  have apart : (1 : ℚ) ≤ |(k : ℚ) - m| := by exact_mod_cast Int.one_le_abs (sub_ne_zero.2 ne)
  have path := abs_sub_le (k : ℚ) y m
  rw [abs_sub_comm y] at path
  linarith

namespace Fraction
variable {tie : Tie} {x y : Fraction} {n : Nat}

/-- **Rounding a fraction finds the nearest natural.** -/
theorem nearest_nearestNat (x : Fraction) (tie : Tie) : tie.Nearest x.value (x.nearestNat tie) := by
  cases tie
  · exact nearest_nearestEven x.den_pos
  · exact nearest_nearestUp x.den_pos

theorem nearestNat_mono (h : x.value ≤ y.value) : x.nearestNat tie ≤ y.nearestNat tie :=
  (x.nearest_nearestNat tie).mono (y.nearest_nearestNat tie) h

/-! ## Significant bits -/

/-- A fraction lies between two powers of two. -/
theorem log2_bounds (pos : 0 < x.value) :
    (2 : ℚ) ^ x.log2 ≤ x.value ∧ x.value < 2 ^ (x.log2 + 1) := by
  have num_ne : x.num ≠ 0 := fun h => pos.ne' (value_eq_zero_iff.2 h)
  have two (a b : ℤ) : (2 : ℚ) ^ (a - b) = 2 ^ a / 2 ^ b := zpow_sub₀ two_ne_zero a b
  have pow (k : ℤ) : (0 : ℚ) < 2 ^ k := zpow_pos two_pos k
  have num_le : (2 : ℚ) ^ (Nat.log2 x.num : ℤ) ≤ x.num := by
    exact_mod_cast Nat.log2_self_le num_ne
  have num_lt : (x.num : ℚ) < 2 ^ (Nat.log2 x.num + 1 : ℤ) := by
    exact_mod_cast Nat.lt_log2_self
  have den_le : (2 : ℚ) ^ (Nat.log2 x.den : ℤ) ≤ x.den := by
    exact_mod_cast Nat.log2_self_le x.den_pos.ne'
  have den_lt : (x.den : ℚ) < 2 ^ (Nat.log2 x.den + 1 : ℤ) := by
    exact_mod_cast Nat.lt_log2_self
  have lower : (2 : ℚ) ^ ((Nat.log2 x.num : ℤ) - Nat.log2 x.den - 1) ≤ x.value := by
    rw [sub_sub, two, value]
    exact div_le_div₀ (Nat.cast_nonneg _) num_le x.den_pos_rat den_lt.le
  have upper : x.value < 2 ^ ((Nat.log2 x.num : ℤ) - Nat.log2 x.den + 1) := by
    rw [sub_add_eq_add_sub, two, value]
    exact div_lt_div₀ num_lt den_le (pow _).le (pow _)
  simp only [log2]
  split
  · next h =>
    rw [le_iff, value_shift2, value_ofNat, Nat.cast_one, one_mul] at h
    exact ⟨h, upper⟩
  · next h =>
    rw [le_iff, value_shift2, value_ofNat, Nat.cast_one, one_mul, not_le] at h
    rw [sub_add_cancel]
    exact ⟨lower, h⟩

theorem log2_mono (pos : 0 < x.value) (h : x.value ≤ y.value) : x.log2 ≤ y.log2 := by
  have : (2 : ℚ) ^ x.log2 < 2 ^ (y.log2 + 1) :=
    ((log2_bounds pos).1.trans h).trans_lt (log2_bounds (pos.trans_le h)).2
  exact Int.lt_add_one_iff.1 ((zpow_lt_zpow_iff_right₀ one_lt_two).1 this)

variable {p : Nat}

theorem value_rounded (pos : 0 < x.value) :
    (x.rounded p).value = x.inUnits (x.unit p) * 2 ^ x.unit p := by
  have num_ne : x.num ≠ 0 := fun h => pos.ne' (value_eq_zero_iff.2 h)
  rw [rounded, round, if_neg num_ne, Scaled.value_toFraction]

theorem value_rounded_of_zero (zero : x.value = 0) : (x.rounded p).value = 0 := by
  rw [rounded, round, if_pos (value_eq_zero_iff.1 zero), Scaled.value_toFraction, Nat.cast_zero,
    zero_mul]

theorem nearest_inUnits (x : Fraction) (e : Int) :
    Tie.even.Nearest (x.value / 2 ^ e) (x.inUnits e) := by
  have nearest := (x.shift2 (-e)).nearest_nearestNat .even
  rwa [value_shift2, zpow_neg, ← div_eq_mul_inv] at nearest

theorem zpow_unit_add (k : Nat) : (2 : ℚ) ^ (x.unit p + k) = (2 ^ k : Nat) * 2 ^ x.unit p := by
  rw [zpow_add₀ two_ne_zero, zpow_natCast, Nat.cast_pow, Nat.cast_ofNat, mul_comm]

theorem zpow_log2 (hp : 0 < p) : (2 : ℚ) ^ x.log2 = (2 ^ (p - 1) : Nat) * 2 ^ x.unit p := by
  rw [← zpow_unit_add, unit]
  congr 1
  omega

theorem zpow_log2_add_one : (2 : ℚ) ^ (x.log2 + 1) = (2 ^ p : Nat) * 2 ^ x.unit p := by
  rw [← zpow_unit_add, unit]
  congr 1
  omega

section
variable (pos : 0 < x.value)
include pos

/-- Rounding does not pass a whole number of units. -/
theorem rounded_le {k : Nat} (h : x.value ≤ k * 2 ^ x.unit p) :
    (x.rounded p).value ≤ k * 2 ^ x.unit p := by
  have unit_pos : (0 : ℚ) < 2 ^ x.unit p := zpow_pos two_pos _
  rw [value_rounded pos]
  refine mul_le_mul_of_nonneg_right (Nat.cast_le.2 ?_) unit_pos.le
  exact (x.nearest_inUnits _).le_of_le ((div_le_iff₀ unit_pos).2 h)

theorem le_rounded {k : Nat} (h : k * 2 ^ x.unit p ≤ x.value) :
    k * 2 ^ x.unit p ≤ (x.rounded p).value := by
  have unit_pos : (0 : ℚ) < 2 ^ x.unit p := zpow_pos two_pos _
  rw [value_rounded pos]
  refine mul_le_mul_of_nonneg_right (Nat.cast_le.2 ?_) unit_pos.le
  exact (x.nearest_inUnits _).ge_of_ge ((le_div_iff₀ unit_pos).2 h)

/-- A value has from `2 ^ (p - 1)` to `2 ^ p` of its units. -/
theorem inUnits_bounds (hp : 0 < p) :
    2 ^ (p - 1) ≤ x.inUnits (x.unit p) ∧ x.inUnits (x.unit p) ≤ 2 ^ p := by
  have unit_pos : (0 : ℚ) < 2 ^ x.unit p := zpow_pos two_pos _
  have nearest := x.nearest_inUnits (x.unit p)
  obtain ⟨lower, upper⟩ := log2_bounds pos
  rw [zpow_log2 hp] at lower
  rw [zpow_log2_add_one (p := p)] at upper
  exact ⟨nearest.ge_of_ge ((le_div_iff₀ unit_pos).2 lower),
    nearest.le_of_le ((div_le_iff₀ unit_pos).2 upper.le)⟩

/-- Rounding does not pass a power of two. -/
theorem rounded_bounds (hp : 0 < p) :
    (2 : ℚ) ^ x.log2 ≤ (x.rounded p).value ∧ (x.rounded p).value ≤ 2 ^ (x.log2 + 1) := by
  have unit_pos : (0 : ℚ) < 2 ^ x.unit p := zpow_pos two_pos _
  obtain ⟨lower, upper⟩ := inUnits_bounds pos hp
  rw [value_rounded pos, zpow_log2 hp, zpow_log2_add_one (p := p)]
  exact ⟨mul_le_mul_of_nonneg_right (Nat.cast_le.2 lower) unit_pos.le,
    mul_le_mul_of_nonneg_right (Nat.cast_le.2 upper) unit_pos.le⟩

end

/-- **A greater value is not rounded to a lesser one.** -/
theorem rounded_mono (hp : 0 < p) (h : x.value ≤ y.value) :
    (x.rounded p).value ≤ (y.rounded p).value := by
  rcases x.value_nonneg.eq_or_lt with zero | pos
  · rw [value_rounded_of_zero zero.symm]
    exact value_nonneg _
  rcases (log2_mono pos h).eq_or_lt with same | less
  · -- both are rounded to the same unit
    have unit : x.unit p = y.unit p := by rw [Fraction.unit, Fraction.unit, same]
    have unit_pos : (0 : ℚ) < 2 ^ y.unit p := zpow_pos two_pos _
    rw [value_rounded pos, value_rounded (pos.trans_le h), unit]
    refine mul_le_mul_of_nonneg_right (Nat.cast_le.2 ?_) unit_pos.le
    have ratio := div_le_div_of_nonneg_right h unit_pos.le
    exact (x.nearest_inUnits _).mono (y.nearest_inUnits _) ratio
  · -- a power of two lies between them
    calc (x.rounded p).value ≤ 2 ^ (x.log2 + 1) := (rounded_bounds pos hp).2
      _ ≤ 2 ^ y.log2 := zpow_le_zpow_right₀ one_le_two less
      _ ≤ (y.rounded p).value := (rounded_bounds (pos.trans_le h) hp).1

/-- **A value with at most `p` significant bits is left alone.** -/
theorem value_rounded_of_eq {m : Nat} {e : Int} (hm : m < 2 ^ p) (h : x.value = m * 2 ^ e) :
    (x.rounded p).value = x.value := by
  rcases x.value_nonneg.eq_or_lt with zero | pos
  · rw [value_rounded_of_zero zero.symm, zero]
  have small : x.value < 2 ^ (e + p : ℤ) := by
    rw [h, zpow_add₀ two_ne_zero, mul_comm, zpow_natCast]
    exact mul_lt_mul_of_pos_left (by exact_mod_cast hm) (zpow_pos two_pos e)
  have unit_le : x.unit p ≤ e := by
    have := (zpow_lt_zpow_iff_right₀ one_lt_two).1 ((log2_bounds pos).1.trans_lt small)
    rw [unit]
    omega
  have units : x.value = (m * 2 ^ (e - x.unit p).toNat : Nat) * 2 ^ x.unit p := by
    rw [Nat.cast_mul, Nat.cast_pow, Nat.cast_ofNat, ← zpow_natCast,
      Int.toNat_of_nonneg (Int.sub_nonneg_of_le unit_le), mul_assoc, ← zpow_add₀ two_ne_zero,
      Int.sub_add_cancel, h]
  refine le_antisymm ?_ ?_
  · rw [units]
    exact rounded_le pos units.le
  · rw [units]
    exact le_rounded pos units.ge

theorem value_rounded_of_natCast {n : Nat} (hn : n < 2 ^ p) (h : x.value = n) :
    (x.rounded p).value = n := by
  rw [value_rounded_of_eq (e := 0) hn (by rw [h, zpow_zero, mul_one]), h]

/-- **One rounding to `p` bits changes a value by at most its `2 ^ p`-th part.** -/
theorem abs_rounded_sub_le (p : Nat) (x : Fraction) :
    |(x.rounded p).value - x.value| ≤ x.value / 2 ^ p := by
  rcases x.value_nonneg.eq_or_lt with zero | pos
  · rw [value_rounded_of_zero zero.symm, ← zero]
    simp
  have unit_pos : (0 : ℚ) < 2 ^ x.unit p := zpow_pos two_pos _
  have nearest := x.nearest_inUnits (x.unit p)
  have half_unit : (1 : ℚ) / 2 * 2 ^ x.unit p = 2 ^ x.log2 / 2 ^ p := by
    rw [unit, zpow_add₀ two_ne_zero, zpow_sub₀ two_ne_zero, zpow_one, zpow_natCast]
    ring
  calc |(x.rounded p).value - x.value|
      = |(x.inUnits (x.unit p) : ℚ) - x.value / 2 ^ x.unit p| * 2 ^ x.unit p := by
        rw [value_rounded pos, ← abs_of_pos unit_pos, ← abs_mul, abs_of_pos unit_pos, sub_mul,
          div_mul_cancel₀ _ unit_pos.ne']
    _ ≤ 1 / 2 * 2 ^ x.unit p := by
        refine mul_le_mul_of_nonneg_right (abs_le.2 ⟨?_, ?_⟩) unit_pos.le
        · linarith [nearest.le_add]
        · linarith [nearest.sub_le]
    _ = 2 ^ x.log2 / 2 ^ p := half_unit
    _ ≤ x.value / 2 ^ p := div_le_div_of_nonneg_right (log2_bounds pos).1 (by positivity)

end Fraction

end MarkerStrip.Numeric
