/-
  Markers stay on the strip, in the order of their lines.

  The offset of a line comes out of five rounded operations.  Each of them
  keeps the order of its operands, and none leaves the usable height, so the
  same holds of the offset.

  * `Metrics.pixel_le_usable`: an offset is at most the usable height;
  * `Metrics.pixel_mono`: it grows with the line and the height, and shrinks
    as lines are added to the document or pixels to the margin;
  * `Metrics.Places` is what a layout of diagnostics keeps of them, and
    `Metrics.places_place` says that `place` is one.
-/
import MarkerStrip.Marker
import MarkerStrip.Proofs.Rounding

namespace MarkerStrip

open Numeric (Fraction)

namespace Metrics

/-! ## Positions -/

/-- The number of lines that a line's number is divided by. -/
def divisor (total : UInt64) : Fraction := (Fraction.ofNat (max total.toNat 1)).rounded 53

/-- A line's number, counted from one. -/
def lineNumber (line : UInt64) : Fraction :=
  (((Fraction.ofNat line.toNat).rounded 53).add (Fraction.ofNat 1)).rounded 53

theorem value_position (line total : UInt64) :
    (position line total).value =
      min (((lineNumber line).div (divisor total)).rounded 53).value 1 := by
  simp only [position, Fraction.value_min, Fraction.value_ofNat, Nat.cast_one]
  rfl

variable {line line' total total' : UInt64}

theorem lineNumber_mono (h : line ≤ line') :
    (lineNumber line).value ≤ (lineNumber line').value := by
  have rounded := Fraction.rounded_mono (p := 53) (by decide)
    (x := .ofNat line.toNat) (y := .ofNat line'.toNat) (by
      rw [Fraction.value_ofNat, Fraction.value_ofNat]
      exact_mod_cast UInt64.le_iff_toNat_le.1 h)
  refine Fraction.rounded_mono (by decide) ?_
  rw [Fraction.value_add, Fraction.value_add]
  exact add_le_add_left rounded _

theorem divisor_mono (h : total ≤ total') : (divisor total).value ≤ (divisor total').value := by
  refine Fraction.rounded_mono (by decide) ?_
  rw [Fraction.value_ofNat, Fraction.value_ofNat]
  exact_mod_cast max_le_max_right 1 (UInt64.le_iff_toNat_le.1 h)

/-- **There is always a line to divide by.** -/
theorem one_le_divisor (total : UInt64) : 1 ≤ (divisor total).value := by
  have one : ((Fraction.ofNat 1).rounded 53).value = 1 := by
    rw [Fraction.value_rounded_of_natCast (n := 1) (by decide) (Fraction.value_ofNat 1),
      Nat.cast_one]
  rw [← one]
  refine Fraction.rounded_mono (by decide) ?_
  rw [Fraction.value_ofNat, Fraction.value_ofNat]
  exact_mod_cast le_max_right total.toNat 1

theorem position_le_one (line total : UInt64) : (position line total).value ≤ 1 := by
  rw [value_position]
  exact min_le_right _ _

theorem position_mono (lines : line ≤ line') (totals : total' ≤ total) :
    (position line total).value ≤ (position line' total').value := by
  rw [value_position, value_position]
  refine min_le_min_right 1 (Fraction.rounded_mono (by decide) ?_)
  rw [Fraction.value_div, Fraction.value_div]
  have pos : 0 < (divisor total').value := one_pos.trans_le (one_le_divisor total')
  exact div_le_div₀ (Fraction.value_nonneg _) (lineNumber_mono lines) pos (divisor_mono totals)

/-! ## Offsets -/

variable {m m' : Metrics} {height height' : UInt32}

theorem usable_mono (margins : m'.bottomMargin ≤ m.bottomMargin) (heights : height ≤ height') :
    m.usable height ≤ m'.usable height' := by
  have := UInt32.le_iff_toNat_le.1 margins
  have := UInt32.le_iff_toNat_le.1 heights
  simp only [usable]
  omega

theorem usable_le (m : Metrics) (height : UInt32) : m.usable height ≤ height.toNat :=
  Nat.sub_le ..

theorem usable_lt (m : Metrics) (height : UInt32) : m.usable height < 2 ^ 32 :=
  Nat.lt_of_le_of_lt (m.usable_le height) height.toNat_lt

/-- **No marker lies below the usable height.** -/
theorem pixel_le_usable (m : Metrics) (line total : UInt64) (height : UInt32) :
    m.pixel line total height ≤ m.usable height := by
  have few : m.usable height < 2 ^ 53 := (m.usable_lt height).trans (by decide)
  have whole := Fraction.value_rounded_of_natCast few (Fraction.value_ofNat _)
  refine (Fraction.nearest_nearestNat _ .up).le_of_le ?_
  rw [← whole]
  refine Fraction.rounded_mono (by decide) ?_
  rw [Fraction.value_mul]
  exact mul_le_of_le_one_left (Fraction.value_nonneg _) (position_le_one line total)

/-- **Offsets keep the order of lines and heights, and turn that of lengths and margins.** -/
theorem pixel_mono (lines : line ≤ line') (totals : total' ≤ total) (heights : height ≤ height')
    (margins : m'.bottomMargin ≤ m.bottomMargin) :
    m.pixel line total height ≤ m'.pixel line' total' height' := by
  refine Fraction.nearestNat_mono (Fraction.rounded_mono (by decide) ?_)
  simp only [Fraction.value_mul, Fraction.value_ofNat]
  have usable : (m.usable height : ℚ) ≤ m'.usable height' := by
    exact_mod_cast usable_mono margins heights
  exact mul_le_mul (position_mono lines totals) usable (Nat.cast_nonneg _)
    (Fraction.value_nonneg _)

/-- **An offset fits a word.** -/
theorem toNat_offset (m : Metrics) (line total : UInt64) (height : UInt32) :
    (m.offset line total height).toNat = m.pixel line total height :=
  UInt32.toNat_ofNat_of_lt' (Nat.lt_of_le_of_lt (m.pixel_le_usable ..) (m.usable_lt height))

theorem offset_mono (lines : line ≤ line') (totals : total' ≤ total) (heights : height ≤ height')
    (margins : m'.bottomMargin ≤ m.bottomMargin) :
    m.offset line total height ≤ m'.offset line' total' height' := by
  rw [UInt32.le_iff_toNat_le, toNat_offset, toNat_offset]
  exact pixel_mono lines totals heights margins

/-! ## Layouts -/

/-- What the markers `ms` keep of the diagnostics `ds` that are laid out in `tab`. -/
structure Places (m : Metrics) (ds : List Diagnostic) (tab : UInt64) (height : UInt32)
    (ms : List Marker) : Prop where
  /-- They are those of the tab, in their order, none lost and none doubled. -/
  diagnostics : ms.map Marker.diagnostic = ds.filter fun d => d.tab == tab
  severity : ∀ x ∈ ms, x.severity = x.diagnostic.severity
  usable : ∀ x ∈ ms, x.y.toNat ≤ m.usable height

theorem Places.tab_eq {ds : List Diagnostic} {tab : UInt64} {ms : List Marker}
    (h : m.Places ds tab height ms) {x : Marker} (hx : x ∈ ms) :
    x.diagnostic ∈ ds ∧ x.diagnostic.tab = tab := by
  have : x.diagnostic ∈ ds.filter fun d => d.tab == tab :=
    h.diagnostics ▸ List.mem_map_of_mem hx
  rw [List.mem_filter, beq_iff_eq] at this
  exact this

theorem places_place (m : Metrics) (ds : List Diagnostic) (tab total : UInt64) (height : UInt32) :
    m.Places ds tab height (m.place ds tab total height) where
  diagnostics := by
    rw [place, List.map_map]
    exact List.map_id _
  severity := by
    intro x hx
    obtain ⟨d, -, rfl⟩ := List.mem_map.1 hx
    rfl
  usable := by
    intro x hx
    obtain ⟨d, -, rfl⟩ := List.mem_map.1 hx
    rw [mark, toNat_offset]
    exact m.pixel_le_usable ..

/-- Diagnostics in the order of their lines have markers from top to bottom. -/
theorem sorted_place {ds : List Diagnostic} (sorted : ds.Pairwise fun d d' => d.line ≤ d'.line)
    (m : Metrics) (tab total : UInt64) (height : UInt32) :
    (m.place ds tab total height).Pairwise fun x x' => x.y ≤ x'.y := by
  rw [place, List.pairwise_map]
  exact (sorted.filter _).imp fun lines =>
    offset_mono lines UInt64.le_rfl UInt32.le_rfl UInt32.le_rfl

/-- **Markers stay on the strip, in the order of their lines.**  The division has something to
    divide by, the result is a word that does not pass the usable height, and it keeps the order of
    lines and heights and turns that of lengths and margins. -/
theorem offsets_bounded_and_monotone :
    (∀ (m : Metrics) (line total : UInt64) (height : UInt32),
      0 < (divisor total).value ∧
      (m.offset line total height).toNat = m.pixel line total height ∧
      (m.offset line total height).toNat ≤ height.toNat - m.bottomMargin.toNat ∧
      m.offset line total height ≤ height) ∧
    (∀ (m m' : Metrics) (line line' total total' : UInt64) (height height' : UInt32),
      line ≤ line' → total' ≤ total → height ≤ height' → m'.bottomMargin ≤ m.bottomMargin →
      m.offset line total height ≤ m'.offset line' total' height') ∧
    ∀ (m : Metrics) (ds : List Diagnostic) (tab total : UInt64) (height : UInt32),
      (ds.Pairwise fun d d' => d.line ≤ d'.line) →
      (m.place ds tab total height).Pairwise fun x x' => x.y ≤ x'.y := by
  refine ⟨fun m line total height => ?_, fun _ _ _ _ _ _ _ _ => offset_mono,
    fun m ds tab total height sorted => sorted_place sorted m tab total height⟩
  have below : (m.offset line total height).toNat ≤ m.usable height := by
    rw [toNat_offset]
    exact m.pixel_le_usable ..
  exact ⟨one_pos.trans_le (one_le_divisor total), m.toNat_offset .., below,
    UInt32.le_iff_toNat_le.2 (below.trans (m.usable_le height))⟩

/-- Two lines that are one in double precision, on strips of two heights, and with other
    diagnostics in one layout. -/
theorem offsets_bounded_and_monotone_huge :
    let line : UInt64 := 9007199254740992
    let total : UInt64 := 18446744073709551615
    let ds : List Diagnostic := [⟨0, 4, .error, "a"⟩, ⟨1, 5, .error, "b"⟩, ⟨0, line, .warning, "c"⟩]
    (⟨15⟩ : Metrics).offset line total 1000 ≤ (⟨3⟩ : Metrics).offset (line + 1) (total - 1) 1001 ∧
      ((⟨15⟩ : Metrics).place ds 0 total 1000).Pairwise fun x x' => x.y ≤ x'.y := by
  intro line total ds
  exact ⟨offsets_bounded_and_monotone.2.1 ⟨15⟩ ⟨3⟩ line (line + 1) total (total - 1) 1000 1001
      (by decide) (by decide) (by decide) (by decide),
    offsets_bounded_and_monotone.2.2 ⟨15⟩ ds 0 total 1000 (by decide)⟩

end Metrics

end MarkerStrip
