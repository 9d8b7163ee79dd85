/-
  The board: the markers on show, and which update put them there.

  Every update draws a ticket when it is asked for.  Computations may end in
  any order; the markers of one are put up only if no update with the same or
  a later ticket has been put up before, so an old result never replaces a
  newer one.
-/
import MarkerStrip.Band

namespace MarkerStrip

/-- The number of an update, from one on; zero stands for none. -/
abbrev Ticket := Nat

/-- What became of markers offered to the board. -/
inductive Outcome where
  /-- They are on show; `moved` says whether they differ in place from those before. -/
  | applied (moved : Bool)
  /-- The update `published`, as late or later, is on show already. -/
  | superseded (published : Ticket)
deriving Repr, DecidableEq

/-- The markers on show. -/
structure Board where
  /-- The last ticket drawn. -/
  drawn : Ticket := 0
  /-- The ticket of the markers on show. -/
  published : Ticket := 0
  current : List Marker := []
  /-- The markers that were on show before. -/
  previous : List Marker := []
deriving Repr, DecidableEq

namespace Board

/-- Draws the next ticket. -/
def draw (b : Board) : Ticket × Board :=
  (b.drawn + 1, { b with drawn := b.drawn + 1 })

/-- Puts markers on show, unless a ticket as late is there. -/
def publish (b : Board) (t : Ticket) (ms : List Marker) : Outcome × Board :=
  if t ≤ b.published then (.superseded b.published, b)
  else (.applied (moved b.current ms),
    { b with published := t, current := ms, previous := b.current })

/-- Draws a ticket, lays diagnostics out and publishes them at once. -/
def update (b : Board) (m : Metrics) (ds : List Diagnostic) (tab total : UInt64)
    (height : UInt32) : Outcome × Board :=
  let (t, b) := b.draw
  b.publish t (m.place ds tab total height)

/-- The marker on show that the pointer is on. -/
def markerAt? (b : Board) (band : Band) (p : Int32) : Option Marker :=
  band.hit? b.current p

end Board

end MarkerStrip
