/-
  Which marker the pointer is on.

  A marker at `y` answers to the rows from `y` less the tolerance to `y` plus
  the tolerance plus the marker's height, both ends included.  Offsets are
  unsigned words and pointer positions signed ones, so the comparison is made
  in 64 bits, where no sum can overflow.  Where bands overlap, the first
  marker of the list wins.
-/
import MarkerStrip.Marker

namespace MarkerStrip

/-- The rows around a marker that belong to it. -/
structure Band where
  tolerance : UInt32 := 2
  height : UInt32 := 4
deriving Repr, DecidableEq

namespace Band

/-- An unsigned word in 64 signed bits. -/
def widen (n : UInt32) : Int64 := n.toUInt64.toInt64

/-- Whether the pointer at `p` is in the band of a marker at `y`. -/
def covers (b : Band) (y : UInt32) (p : Int32) : Bool :=
  decide (widen y - widen b.tolerance ≤ p.toInt64) &&
    decide (p.toInt64 ≤ widen y + widen b.tolerance + widen b.height)

/-- The first marker whose band holds the pointer. -/
def hit? (b : Band) (ms : List Marker) (p : Int32) : Option Marker :=
  ms.find? fun m => b.covers m.y p

/-- The place in the list of the marker that the pointer is on. -/
def hitIndex? (b : Band) (ms : List Marker) (p : Int32) : Option Nat :=
  ms.findIdx? fun m => b.covers m.y p

end Band

end MarkerStrip
