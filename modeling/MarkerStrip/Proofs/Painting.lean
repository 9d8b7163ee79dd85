/-
  What is painted: inside the strip, and under the pointer.

  Every marker on show is one rectangle.  It leaves the side margins free, and
  where the bottom margin is as high as a marker, it does not reach below the
  strip.  The pointer on a row of it hits its marker, or one before it.

  * `Settings.Shows` says what the rectangle of a marker is like, and
    `Settings.shows_fill` that it is painted so;
  * `Rect.rows` are the rows of a rectangle, and `Settings.rows_subset` says that
    they are among those its marker answers to.
-/
import MarkerStrip.Paint
import MarkerStrip.Proofs.Layout
import MarkerStrip.Proofs.Pointer

namespace MarkerStrip

namespace Settings

/-! ## Rectangles -/

/-- What the rectangle of a marker on a strip of this size is like. -/
structure Shows (s : Settings) (width height : UInt32) (m : Marker) (f : Fill) : Prop where
  color : f.color = match m.severity with
    | .error => s.errorColor
    | .warning => s.warningColor
  left : f.rect.x = s.insetLeft
  top : f.rect.y = m.y
  rows : f.rect.height = s.markerHeight
  visible : 0 < f.rect.width
  right : f.rect.x.toNat + f.rect.width.toNat = width.toNat - s.insetRight.toNat
  /-- A bottom margin as high as the marker keeps it above the lower edge. -/
  bottom : s.markerHeight ≤ s.bottomMargin → s.markerHeight ≤ height →
    f.rect.y.toNat + f.rect.height.toNat ≤ height.toNat

variable (s : Settings) (width height : UInt32)

theorem toNat_markerWidth :
    (s.markerWidth width).toNat = width.toNat - (s.insetLeft.toNat + s.insetRight.toNat) := by
  have := width.toNat_lt
  rw [markerWidth, UInt32.toNat_ofNat_of_lt']
  exact Nat.lt_of_le_of_lt (Nat.sub_le ..) this

theorem toNat_markerWidth_cut : (s.markerWidth width).toNat =
    width.toNat - min (s.insetLeft.toNat + s.insetRight.toNat) (2 ^ 32 - 1) := by
  have := width.toNat_lt
  rw [toNat_markerWidth]
  omega

theorem markerWidth_eq_zero_iff :
    s.markerWidth width = 0 ↔ width.toNat ≤ s.insetLeft.toNat + s.insetRight.toNat := by
  rw [← UInt32.toNat_inj, toNat_markerWidth, UInt32.toNat_zero, Nat.sub_eq_zero_iff_le]

variable {s width height}

/-- **A marker above the bottom margin is painted inside the strip.** -/
theorem shows_fill (wide : s.insetLeft.toNat + s.insetRight.toNat < width.toNat) {m : Marker}
    (usable : m.y.toNat ≤ s.metrics.usable height) : s.Shows width height m (s.fill width m) where
  color := by cases h : m.severity <;> simp [fill, colorOf, h]
  left := rfl
  top := rfl
  rows := rfl
  visible := by
    rw [fill, UInt32.pos_iff_ne_zero, Ne, markerWidth_eq_zero_iff]
    omega
  right := by
    simp only [fill, toNat_markerWidth]
    omega
  bottom := by
    intro margin high
    have := UInt32.le_iff_toNat_le.1 margin
    have := UInt32.le_iff_toNat_le.1 high
    simp only [Metrics.usable, metrics, fill] at usable ⊢
    omega

/-- **Markers are painted inside the strip.**  The background is filled first; then, if the side
    margins leave a width, also where their sum does not fit a word, come the rectangles of the
    markers, one for each and in their order, and nothing else. -/
theorem markers_painted_inside (s : Settings) (ds : List Diagnostic) (tab total : UInt64)
    (width height : UInt32) :
    let ms := s.metrics.place ds tab total height
    let margins := s.insetLeft.toNat + s.insetRight.toNat
    ∃ fills, s.paint ms width height = ⟨⟨0, 0, width, height⟩, s.backgroundColor⟩ :: fills ∧
      (s.markerWidth width).toNat = width.toNat - min margins (2 ^ 32 - 1) ∧
      (margins < width.toNat → List.Forall₂ (s.Shows width height) ms fills) ∧
      (width.toNat ≤ margins → fills = []) := by
  intro ms margins
  refine ⟨_, rfl, s.toNat_markerWidth_cut width, fun wide => ?_, fun narrow => ?_⟩
  · have visible : ¬s.markerWidth width = 0 := by
      rw [markerWidth_eq_zero_iff]
      omega
    rw [if_neg (by simpa using visible), List.forall₂_map_right_iff, List.forall₂_same]
    intro m hm
    exact shows_fill wide ((s.metrics.places_place ds tab total height).usable m hm)
  · rw [if_pos (by simpa using (s.markerWidth_eq_zero_iff width).2 narrow)]

/-- A strip lower than its bottom margin, with one column left for markers; and one whose side
    margins are wider than any strip. -/
theorem markers_painted_inside_low :
    let s : Settings := {}
    let t : Settings := { insetLeft := 4294967295, insetRight := 5 }
    let ds : List Diagnostic := [⟨0, 4, .error, "a"⟩, ⟨1, 0, .error, "b"⟩, ⟨0, 0, .warning, "c"⟩]
    s.insetLeft.toNat + s.insetRight.toNat < (4 : UInt32).toNat ∧
      (4294967295 : UInt32).toNat ≤ t.insetLeft.toNat + t.insetRight.toNat ∧
      List.Forall₂ (s.Shows 4 10) (s.metrics.place ds 0 3 10)
        [⟨⟨2, 0, 1, 4⟩, s.errorColor⟩, ⟨⟨2, 0, 1, 4⟩, s.warningColor⟩] ∧
      t.paint (t.metrics.place ds 0 3 10) 4294967295 10 =
        [⟨⟨0, 0, 4294967295, 10⟩, t.backgroundColor⟩] := by
  intro s t ds
  have wide : s.insetLeft.toNat + s.insetRight.toNat < (4 : UInt32).toNat := by decide
  have narrow : (4294967295 : UInt32).toNat ≤ t.insetLeft.toNat + t.insetRight.toNat := by decide
  obtain ⟨fills, painted, -, inside, -⟩ := markers_painted_inside s ds 0 3 4 10
  obtain ⟨none, painted', -, -, hidden⟩ := markers_painted_inside t ds 0 3 4294967295 10
  have two : s.paint (s.metrics.place ds 0 3 10) 4 10 = [⟨⟨0, 0, 4, 10⟩, s.backgroundColor⟩,
      ⟨⟨2, 0, 1, 4⟩, s.errorColor⟩, ⟨⟨2, 0, 1, 4⟩, s.warningColor⟩] := by decide +kernel
  refine ⟨wide, narrow, ?_, ?_⟩
  · rw [← (List.cons.inj (painted.symm.trans two)).2]
    exact inside wide
  · rw [painted', hidden narrow]

end Settings

/-! ## Rows -/

/-- The rows of a rectangle. -/
def Rect.rows (r : Rect) : Set ℤ := {n | r.y.toNat ≤ n ∧ n < r.y.toNat + r.height.toNat}

namespace Settings

/-- The rectangle that shows the marker at a place of the list, if it is painted. -/
def drawn? (s : Settings) (ms : List Marker) (width height : UInt32) (i : ℕ) : Option Rect :=
  (s.paint ms width height)[i + 1]?.map Fill.rect

variable {s : Settings} {ms : List Marker} {width height : UInt32} {i : ℕ} {r : Rect}

theorem drawn?_eq_some_iff : s.drawn? ms width height i = some r ↔
    s.insetLeft.toNat + s.insetRight.toNat < width.toNat ∧
      ∃ m, ms[i]? = some m ∧ r = ⟨s.insetLeft, m.y, s.markerWidth width, s.markerHeight⟩ := by
  have visible := s.markerWidth_eq_zero_iff width
  rw [drawn?, paint, List.getElem?_cons_succ]
  by_cases zero : s.markerWidth width = 0
  · simp [zero, visible.1 zero]
  · have wide := Nat.not_le.1 fun narrow => zero (visible.2 narrow)
    rw [if_neg (by simpa using zero)]
    simp only [wide, true_and, List.getElem?_map, Option.map_map, Option.map_eq_some_iff,
      Function.comp_apply, fill]
    exact exists_congr fun m => and_congr_right' eq_comm

theorem rows_subset (s : Settings) (x y width : UInt32) :
    Rect.rows ⟨x, y, width, s.markerHeight⟩ ⊆ s.band.rows y := by
  rintro p ⟨low, high⟩
  simp only at low high
  constructor
  · simp only [band]
    omega
  · simp only [band]
    omega

/-- **What is painted answers to the pointer, and nothing answers that is painted farther away.**
    The rectangles are those of the markers.  On a row of one the pointer hits its marker or an
    earlier one.  A marker that it hits is no farther from it than the tolerance, and no earlier one
    is as near or has the row painted for it. -/
theorem painted_rows_answer (s : Settings) (ms : List Marker) (width height : UInt32) (p : Int32) :
    (∀ i r, s.drawn? ms width height i = some r ↔
      s.insetLeft.toNat + s.insetRight.toNat < width.toNat ∧
        ∃ m, ms[i]? = some m ∧ r = ⟨s.insetLeft, m.y, s.markerWidth width, s.markerHeight⟩) ∧
    (∀ i r, s.drawn? ms width height i = some r → p.toInt ∈ r.rows →
      ∃ j ≤ i, ∃ m, ms[j]? = some m ∧ s.band.hitIndex? ms p = some j ∧
        s.band.hit? ms p = some m) ∧
    ∀ m, s.band.hit? ms p = some m →
      ∃ j, ms[j]? = some m ∧ s.band.hitIndex? ms p = some j ∧
        (m.y.toNat - s.hitTolerance.toNat ≤ p.toInt ∧
          p.toInt ≤ m.y.toNat + s.markerHeight.toNat + s.hitTolerance.toNat) ∧
        ∀ i < j, (∀ m', ms[i]? = some m' → p.toInt ∉ s.band.rows m'.y) ∧
          ∀ r, s.drawn? ms width height i = some r → p.toInt ∉ r.rows := by
  refine ⟨fun i r => drawn?_eq_some_iff, ?_, ?_⟩
  · intro i r drawn on_row
    obtain ⟨-, m, at_i, rfl⟩ := drawn?_eq_some_iff.1 drawn
    exact Band.exists_hit at_i (s.rows_subset _ m.y _ on_row)
  · intro m hit
    obtain ⟨j, at_j, index⟩ := Band.hit?_eq_some_iff.1 hit
    obtain ⟨⟨m', at_j', low, high⟩, first⟩ := Band.hitIndex?_eq_some_iff.1 index
    obtain rfl : m' = m := Option.some.inj (at_j'.symm.trans at_j)
    refine ⟨j, at_j, index, ⟨low, ?_⟩, fun i hi => ⟨first i hi, ?_⟩⟩
    · simp only [band] at high
      omega
    · intro r drawn on_row
      obtain ⟨-, m, at_i, rfl⟩ := drawn?_eq_some_iff.1 drawn
      exact first i hi m at_i (s.rows_subset _ m.y _ on_row)

/-- On a row of two rectangles the pointer hits the marker that comes first in the list, and next to
    them the only one within the tolerance. -/
theorem painted_rows_answer_overlap :
    let s : Settings := {}
    let d : Diagnostic := ⟨0, 0, .error, "a"⟩
    let ms : List Marker := [⟨d, 42, .error⟩, ⟨d, 40, .warning⟩]
    s.drawn? ms 12 200 1 = some ⟨2, 40, 9, 4⟩ ∧
      (43 : Int32).toInt ∈ (⟨2, 40, 9, 4⟩ : Rect).rows ∧
      (∃ j ≤ 1, ∃ m, ms[j]? = some m ∧ s.band.hitIndex? ms 43 = some j ∧
        s.band.hit? ms 43 = some m) ∧
      s.band.hit? ms 39 = some ⟨d, 40, .warning⟩ ∧
      ∃ j, ms[j]? = some ⟨d, 40, .warning⟩ ∧ s.band.hitIndex? ms 39 = some j ∧
        ∀ i < j, ∀ r, s.drawn? ms 12 200 i = some r → (39 : Int32).toInt ∉ r.rows := by
  intro s d ms
  have drawn : s.drawn? ms 12 200 1 = some ⟨2, 40, 9, 4⟩ := by decide +kernel
  have on_row : (43 : Int32).toInt ∈ (⟨2, 40, 9, 4⟩ : Rect).rows := ⟨by decide, by decide⟩
  have hit : s.band.hit? ms 39 = some ⟨d, 40, .warning⟩ := by decide +kernel
  obtain ⟨j, at_j, index, -, first⟩ := (painted_rows_answer s ms 12 200 39).2.2 _ hit
  exact ⟨drawn, on_row, (painted_rows_answer s ms 12 200 43).2.1 1 _ drawn on_row, hit, j, at_j, index,
    fun i hi => (first i hi).2⟩

end Settings

end MarkerStrip
