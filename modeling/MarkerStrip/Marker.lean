/-
  Laying diagnostics out along the strip.

  A marker sits at a fraction of the usable height: the height of the strip
  less a bottom margin.  The fraction is the line's number, counted from one,
  over the number of lines, computed in double precision and never above one.

  * `Metrics.pixel` is the offset as a natural, by exact fractions rounded to
    53 bits after every operation; `Metrics.offset` is the same as a word;
  * `place` lays out the diagnostics of one tab, in the order they come in;
  * `moved` compares two layouts by number and offsets only, which is to say
    their lists of offsets (`moved_eq_false_iff`).
-/
import MarkerStrip.Diagnostic
import MarkerStrip.Numeric.Rounding

namespace MarkerStrip

open Numeric (Fraction)

/-! ## Offsets -/

/-- What the layout needs to know of the settings. -/
structure Metrics where
  /-- The margin kept free below the last marker. -/
  bottomMargin : UInt32 := 15
deriving Repr, DecidableEq

namespace Metrics

/-- The height that markers are spread over. -/
def usable (m : Metrics) (height : UInt32) : Nat :=
  height.toNat - m.bottomMargin.toNat

/-- Where in the document a line is, as a fraction between zero and one, in double precision.  A
    document of no lines counts as one of a single line. -/
def position (line total : UInt64) : Fraction :=
  let count := ((Fraction.ofNat line.toNat).rounded 53).add (Fraction.ofNat 1)
  let lines := (Fraction.ofNat (max total.toNat 1)).rounded 53
  (((count.rounded 53).div lines).rounded 53).min (Fraction.ofNat 1)

/-- The offset of a line from the top of the strip, rounded to a whole pixel, a half going down the
    strip. -/
def pixel (m : Metrics) (line total : UInt64) (height : UInt32) : Nat :=
  (((position line total).mul (Fraction.ofNat (m.usable height))).rounded 53).nearestNat .up

/-- The offset of a line from the top of the strip. -/
def offset (m : Metrics) (line total : UInt64) (height : UInt32) : UInt32 :=
  UInt32.ofNat (m.pixel line total height)

end Metrics

/-! ## Markers -/

/-- A diagnostic placed on the strip. -/
structure Marker where
  diagnostic : Diagnostic
  /-- The offset from the top of the strip, in pixels. -/
  y : UInt32
  severity : Severity
deriving Repr, DecidableEq

def Marker.tooltip (m : Marker) : String := m.diagnostic.tooltip

/-- The marker of one diagnostic in a document of `total` lines. -/
def Metrics.mark (m : Metrics) (total : UInt64) (height : UInt32) (d : Diagnostic) : Marker where
  diagnostic := d
  y := m.offset d.line total height
  severity := d.severity

/-- The markers of the diagnostics on `tab`, in the order of the list. -/
def Metrics.place (m : Metrics) (ds : List Diagnostic) (tab total : UInt64) (height : UInt32) :
    List Marker :=
  (ds.filter fun d => d.tab == tab).map (m.mark total height)

/-- Whether two layouts differ in number or in some offset; a marker that only changes its severity
    has not moved. -/
def moved (old new : List Marker) : Bool :=
  old.length != new.length || (old.zip new).any fun (a, b) => a.y != b.y

/-- Layouts that have not moved have the same offsets in the same order. -/
theorem moved_eq_false_iff (old new : List Marker) :
    moved old new = false ↔ old.map Marker.y = new.map Marker.y := by
  induction old generalizing new with
  | nil => cases new <;> simp [moved]
  | cons a old ih =>
    cases new with
    | nil => simp [moved]
    | cons b new =>
      have := ih new
      simp only [moved, List.length_cons, List.zip_cons_cons, List.any_cons, List.map_cons,
        List.cons.injEq, Bool.or_eq_false_iff, bne_eq_false_iff_eq,
        Nat.add_right_cancel_iff] at this ⊢
      grind

end MarkerStrip
