/-
  Which rows a marker answers to.

  Whether the pointer is in a marker's band is computed in 64 bits, where no
  sum of an offset, a tolerance and a height overflows.

  * `Band.rows` are the rows of a band in whole numbers, and `Band.covers_iff`
    says that the computation decides them;
  * `Band.Meets`: a marker is the first one whose rows hold the pointer, which
    is the one that is hit (`Band.hit?_eq_some_iff_meets`); wherever there is
    one, it or an earlier one is hit (`Band.exists_hit`);
  * `Band.hitIndex?_append` and `Band.exists_hit_of_le`: neither markers behind
    the list nor more rows around each take a hit away.
-/
import Mathlib.Algebra.Order.Group.Int
import Mathlib.Data.Set.Defs
import Mathlib.Tactic.ByContra
import MarkerStrip.Band

namespace MarkerStrip

namespace Band

/-- The rows that a marker at `y` answers to. -/
def rows (b : Band) (y : UInt32) : Set ℤ :=
  {n | y.toNat - b.tolerance.toNat ≤ n ∧ n ≤ y.toNat + b.tolerance.toNat + b.height.toNat}

theorem toInt_widen (n : UInt32) : (widen n).toInt = n.toNat := by
  have small := n.toNat_lt
  rw [widen, Int64.toInt, UInt64.toBitVec_toInt64, BitVec.toInt_eq_toNat_of_lt]
  · simp
  · simp
    omega

section
variable (b : Band) (y : UInt32)

/-! No operation on three widened words leaves the 64 bits, so each comes to what it does in whole
numbers. -/

theorem toInt_low : (widen y - widen b.tolerance).toInt = y.toNat - b.tolerance.toNat := by
  have hy := y.toNat_lt
  have ht := b.tolerance.toNat_lt
  rw [Int64.toInt_sub, toInt_widen, toInt_widen]
  exact Int.bmod_eq_of_le (by omega) (by omega)

theorem toInt_middle : (widen y + widen b.tolerance).toInt = y.toNat + b.tolerance.toNat := by
  have hy := y.toNat_lt
  have ht := b.tolerance.toNat_lt
  rw [Int64.toInt_add, toInt_widen, toInt_widen]
  exact Int.bmod_eq_of_le (by omega) (by omega)

theorem toInt_high : (widen y + widen b.tolerance + widen b.height).toInt =
    y.toNat + b.tolerance.toNat + b.height.toNat := by
  have hy := y.toNat_lt
  have ht := b.tolerance.toNat_lt
  have hh := b.height.toNat_lt
  rw [Int64.toInt_add, toInt_middle, toInt_widen]
  exact Int.bmod_eq_of_le (by omega) (by omega)

/-- **Nothing overflows in 64 bits.** -/
theorem covers_iff (p : Int32) : b.covers y p = true ↔ p.toInt ∈ b.rows y := by
  simp only [covers, Bool.and_eq_true, decide_eq_true_eq, Int64.le_iff_toInt_le, toInt_low,
    toInt_high, Int32.toInt_toInt64]
  exact Iff.rfl

theorem rows_mono {b b' : Band} (ht : b.tolerance ≤ b'.tolerance) (hh : b.height ≤ b'.height)
    (y : UInt32) : b.rows y ⊆ b'.rows y := by
  rintro n ⟨low, high⟩
  have := UInt32.le_iff_toNat_le.1 ht
  have := UInt32.le_iff_toNat_le.1 hh
  constructor
  · omega
  · omega

end

/-- The marker `m` at place `j` is the first one whose rows hold the pointer. -/
structure Meets (b : Band) (ms : List Marker) (p : Int32) (j : ℕ) (m : Marker) : Prop where
  at_j : ms[j]? = some m
  inside : p.toInt ∈ b.rows m.y
  first : ∀ i < j, ∀ m', ms[i]? = some m' → p.toInt ∉ b.rows m'.y

variable {b : Band} {ms : List Marker} {p : Int32} {i j : ℕ} {m : Marker}

/-- **The marker that is hit is the first one whose rows hold the pointer.** -/
theorem hitIndex?_eq_some_iff : b.hitIndex? ms p = some j ↔
    (∃ m, ms[j]? = some m ∧ p.toInt ∈ b.rows m.y) ∧
      ∀ i < j, ∀ m, ms[i]? = some m → p.toInt ∉ b.rows m.y := by
  simp only [hitIndex?, List.findIdx?_eq_some_iff_getElem, covers_iff]
  constructor
  · rintro ⟨bound, inside, first⟩
    refine ⟨⟨ms[j], List.getElem?_eq_getElem bound, inside⟩, fun i hi m at_i => ?_⟩
    obtain ⟨-, rfl⟩ := List.getElem?_eq_some_iff.1 at_i
    exact first i hi
  · rintro ⟨⟨m, at_j, inside⟩, first⟩
    obtain ⟨bound, rfl⟩ := List.getElem?_eq_some_iff.1 at_j
    exact ⟨bound, inside, fun i hi => first i hi ms[i] (List.getElem?_eq_getElem _)⟩

theorem hit?_eq_some_iff :
    b.hit? ms p = some m ↔ ∃ j, ms[j]? = some m ∧ b.hitIndex? ms p = some j := by
  rw [hit?, List.find?_eq_bind_findIdx?_getElem?, Option.bind_eq_some_iff]
  exact exists_congr fun j => and_comm

/-- The marker that is hit is the one that the pointer meets. -/
theorem hitIndex?_eq_some_iff_meets : b.hitIndex? ms p = some j ↔ ∃ m, b.Meets ms p j m := by
  rw [hitIndex?_eq_some_iff]
  constructor
  · rintro ⟨⟨m, at_j, inside⟩, first⟩
    exact ⟨m, at_j, inside, first⟩
  · rintro ⟨m, at_j, inside, first⟩
    exact ⟨⟨m, at_j, inside⟩, first⟩

theorem hit?_eq_some_iff_meets : b.hit? ms p = some m ↔ ∃ j, b.Meets ms p j m := by
  rw [hit?_eq_some_iff]
  constructor
  · rintro ⟨j, at_j, hit⟩
    obtain ⟨m', meets⟩ := hitIndex?_eq_some_iff_meets.1 hit
    obtain rfl : m' = m := Option.some.inj (meets.at_j.symm.trans at_j)
    exact ⟨j, meets⟩
  · rintro ⟨j, meets⟩
    exact ⟨j, meets.at_j, hitIndex?_eq_some_iff_meets.2 ⟨m, meets⟩⟩

theorem hit?_eq_none_iff : b.hit? ms p = none ↔ ∀ m ∈ ms, p.toInt ∉ b.rows m.y := by
  simp only [hit?, List.find?_eq_none, covers_iff]

/-- Where the rows of a marker hold the pointer, it or an earlier one is hit. -/
theorem exists_hit (at_i : ms[i]? = some m) (h : p.toInt ∈ b.rows m.y) :
    ∃ j ≤ i, ∃ m, ms[j]? = some m ∧ b.hitIndex? ms p = some j ∧ b.hit? ms p = some m := by
  rcases hit : b.hitIndex? ms p with _ | j
  · have none := List.findIdx?_eq_none_iff.1 hit m (List.mem_of_getElem? at_i)
    rw [(b.covers_iff _ p).2 h] at none
    cases none
  · obtain ⟨⟨m', at_j, -⟩, first⟩ := hitIndex?_eq_some_iff.1 hit
    refine ⟨j, ?_, m', at_j, rfl, hit?_eq_some_iff.2 ⟨j, at_j, hit⟩⟩
    by_contra later
    exact first i (not_le.1 later) m at_i h

theorem hitIndex?_append (hit : b.hitIndex? ms p = some j) (more : List Marker) :
    b.hitIndex? (ms ++ more) p = some j := by
  rw [hitIndex?] at hit ⊢
  rw [List.findIdx?_append, hit, Option.some_or]

theorem hit?_append (hit : b.hit? ms p = some m) (more : List Marker) :
    b.hit? (ms ++ more) p = some m := by
  rw [hit?] at hit ⊢
  rw [List.find?_append, hit, Option.some_or]

/-- A larger band hits the same marker or an earlier one. -/
theorem exists_hit_of_le {b' : Band} (ht : b.tolerance ≤ b'.tolerance) (hh : b.height ≤ b'.height)
    (hit : b.hitIndex? ms p = some j) :
    ∃ i ≤ j, ∃ m, ms[i]? = some m ∧ b'.hitIndex? ms p = some i ∧ b'.hit? ms p = some m := by
  obtain ⟨⟨m, at_j, inside⟩, -⟩ := hitIndex?_eq_some_iff.1 hit
  exact exists_hit at_j (rows_mono ht hh m.y inside)

end Band

end MarkerStrip
