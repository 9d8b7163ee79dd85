/-
  Requests for new markers, and how bursts of them are gathered.

  A request carries the diagnostics and the height of the strip from the
  moment it was made; the tab and its document are read when it is computed.

  * `Request.compute` lays a request out over a tab's document, and
    `Request.perform` publishes the result;
  * `gather` handles requests: at once without a window, and else by keeping
    the latest until no request has come for the length of the window.
-/
import MarkerStrip.Board
import MarkerStrip.Editor
import MarkerStrip.Text.Lines
import MarkerStrip.Worker

namespace MarkerStrip

/-! ## Computing -/

/-- A request for new markers. -/
structure Request where
  ticket : Ticket
  diagnostics : List Diagnostic
  height : UInt32
deriving Repr, DecidableEq

/-- How requests are laid out: the metrics, and the lines added to a document's. -/
structure Layout where
  metrics : Metrics := {}
  lineOffset : UInt64 := 0
deriving Repr, DecidableEq

/-- The lines of a text and `offset` more, as many as a word can count. -/
def totalLines (text : String) (offset : UInt64) : UInt64 :=
  UInt64.ofNat (min (Text.lineCount text + offset.toNat) (UInt64.size - 1))

/-- The markers of a request over the text of the document in `tab`. -/
def Request.layOut (r : Request) (l : Layout) (tab : UInt64) (text : String) : List Marker :=
  l.metrics.place r.diagnostics tab (totalLines text l.lineOffset) r.height

/-- The markers of a request over the document in `tab`, if that can be read. -/
def Request.compute (r : Request) (l : Layout) (e : Editor) (tab : UInt64) :
    Except ReadFailure (List Marker) :=
  (e.read tab).map (r.layOut l tab)

/-- Computes a request over the active tab and publishes the result. -/
def Request.perform (r : Request) (l : Layout) (e : Editor) (b : Board) :
    Except ReadFailure (Outcome × Board) :=
  (r.compute l e e.activeTab).map (b.publish r.ticket)

/-! ## Gathering -/

/-- What becomes of a request that was received. -/
inductive Verdict where
  | dispatch (r : Request)
  /-- Another request, as late or later, stands for it. -/
  | setAside (r : Request)
deriving Repr, DecidableEq

/-- Handles requests, gathering those that come within `window` milliseconds of each other.  The
    memory is the request that is kept back, the one with the greatest ticket. -/
def gather (window : Nat) : Handler (Option Request) Request Verdict where
  receive now _ r kept :=
    if window = 0 then (kept, [.dispatch r], none)
    else
      let deadline := some (now + window)
      match kept with
      | none => (some r, [], deadline)
      | some k =>
        if k.ticket < r.ticket then (some r, [.setAside k], deadline)
        else (some k, [.setAside r], deadline)
  flush _ kept := (none, kept.toList.map .dispatch)

end MarkerStrip
