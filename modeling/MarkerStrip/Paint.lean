/-
  Painting a strip.

  The background is filled first.  Then, if the two side margins leave any
  width, every marker is filled in the colour of its severity, in the order of
  the list.
-/
import MarkerStrip.Settings

namespace MarkerStrip

/-- A rectangle in pixels. -/
structure Rect where
  x : UInt32
  y : UInt32
  width : UInt32
  height : UInt32
deriving Repr, DecidableEq

/-- A rectangle filled with a colour. -/
structure Fill where
  rect : Rect
  color : Color
deriving Repr, DecidableEq

namespace Settings

/-- The width that the side margins leave to markers. -/
def markerWidth (s : Settings) (width : UInt32) : UInt32 :=
  UInt32.ofNat (width.toNat - (s.insetLeft.toNat + s.insetRight.toNat))

def background (s : Settings) (width height : UInt32) : Fill :=
  ⟨⟨0, 0, width, height⟩, s.backgroundColor⟩

/-- The filled rectangle of one marker. -/
def fill (s : Settings) (width : UInt32) (m : Marker) : Fill :=
  ⟨⟨s.insetLeft, m.y, s.markerWidth width, s.markerHeight⟩, s.colorOf m.severity⟩

/-- All that is filled, in order. -/
def paint (s : Settings) (ms : List Marker) (width height : UInt32) : List Fill :=
  s.background width height :: if s.markerWidth width == 0 then [] else ms.map (s.fill width)

end Settings

end MarkerStrip
