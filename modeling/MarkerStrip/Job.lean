/-
  Jobs: requests that are being computed.

  A computation goes by steps, between which anything else may happen: it
  takes note of the active tab, reads and lays out that tab's document, offers
  the markers to the board, and ends.

  * `Job.proceed` is one step, up to the answer of the board;
  * `Event` is what the end of a job tells the editor.
-/
import MarkerStrip.Note
import MarkerStrip.Request

namespace MarkerStrip

/-- Offers what a computation came to; a failure leaves the board alone. -/
def Board.absorb (b : Board) (t : Ticket) :
    Except ReadFailure (List Marker) → Except ReadFailure Outcome × Board
  | .ok ms =>
    let (outcome, b) := b.publish t ms
    (.ok outcome, b)
  | .error f => (.error f, b)

/-! ## Steps -/

/-- How far a computation has come. -/
inductive Stage where
  | dispatched
  /-- The active tab is known. -/
  | started (tab : UInt64)
  /-- The document of that tab has been read and laid out, unless reading failed. -/
  | read (result : Except ReadFailure (List Marker))
  /-- The board has answered, unless reading failed. -/
  | answered (answer : Except ReadFailure Outcome)
deriving Repr

/-- A request on its way. -/
structure Job where
  request : Request
  stage : Stage := .dispatched
deriving Repr

namespace Job

def isNew (j : Job) : Bool := j.stage matches .dispatched

/-- Whether a document is being read. -/
def isReading (j : Job) : Bool := j.stage matches .started _

/-- The answer that a job may end with. -/
def answer? (j : Job) : Option (Except ReadFailure Outcome) :=
  match j.stage with
  | .answered answer => some answer
  | _ => none

/-- The next step of a computation. -/
def proceed (j : Job) (l : Layout) (e : Editor) (b : Board) : Job × Board :=
  match j.stage with
  | .dispatched => ({ j with stage := .started e.activeTab }, b)
  | .started tab => ({ j with stage := .read (j.request.compute l e tab) }, b)
  | .read result =>
    let (answer, b) := b.absorb j.request.ticket result
    ({ j with stage := .answered answer }, b)
  | .answered _ => (j, b)

end Job

/-! ## Ends -/

/-- How a job ended. -/
inductive Event where
  /-- New markers are on show. -/
  | published (t : Ticket) (moved : Bool)
  /-- Later markers were on show already. -/
  | superseded (t : Ticket)
  /-- There are no markers; those on show stay. -/
  | aborted (t : Ticket)
deriving Repr, DecidableEq

namespace Event

/-- The ticket of the job that ended. -/
def ticket : Event → Ticket
  | published t _ | superseded t | aborted t => t

/-- The event that tells the answer to a ticket. -/
def ofAnswer (t : Ticket) : Except ReadFailure Outcome → Event
  | .ok (.applied moved) => .published t moved
  | .ok (.superseded _) => .superseded t
  | .error _ => .aborted t

/-- The calls that an event asks for: new markers show on the strip, and beside the text if they
    moved. -/
def repaints : Event → List Call
  | .published _ moved => .repaintStrip :: if moved then [.repaintText] else []
  | .superseded _ | .aborted _ => []

end Event

/-- The notes that tell the answer to a ticket: none if all went well. -/
def Note.ofAnswer (t : Ticket) : Except ReadFailure Outcome → List Note
  | .ok (.applied _) => []
  | .ok (.superseded p) => [.outdated t p]
  | .error (.unreadable tab reason) => [.documentUnreadable t tab reason]
  | .error .crashed => [.computationCrashed t]

end MarkerStrip
