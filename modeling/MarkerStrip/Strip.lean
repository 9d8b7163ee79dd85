/-
  The strip: what the user sees beside the text, and the machinery behind it.

  The editor calls `update`, `refresh` and `resize`; each request draws a
  ticket and goes to the worker's mailbox.  The worker hands requests on as
  jobs, which go on by steps, in any order; the end of one puts one event into
  the strip's list, which `drain` hands to the editor together with the
  repaints it calls for.  Pointer and painting look at the board alone.

  * `Strip` is the state, and `Effect` what an operation does or answers
    besides changing it;
  * `Strip.work` and `Strip.proceed` are the steps that happen behind the
    caller's back.
-/
import MarkerStrip.Job
import MarkerStrip.Paint

namespace MarkerStrip

/-! ## State -/

/-- What an operation does or answers besides changing the strip. -/
inductive Effect where
  | call (c : Call)
  | note (n : Note)
  /-- A request was set aside for one as late or later. -/
  | setAside (t : Ticket)
  /-- An event was handed to the editor. -/
  | delivered (e : Event)
  /-- The editor was told whether the pointer is on a marker. -/
  | answered (hit : Bool)
deriving Repr, DecidableEq

/-- Does one thing after another; the effects of the first come first. -/
def andThen {σ : Type} (x : σ × List Effect) (f : σ → σ × List Effect) : σ × List Effect :=
  let y := f x.1
  (y.1, x.2 ++ y.2)

theorem andThen_assoc {σ : Type} (x : σ × List Effect) (f g : σ → σ × List Effect) :
    andThen (andThen x f) g = andThen x fun s => andThen (f s) g := by
  simp [andThen]

/-- The state of a strip. -/
structure Strip where
  settings : Settings
  height : UInt32
  board : Board := {}
  /-- The diagnostics of the last update. -/
  latest : List Diagnostic := []
  worker : Worker (Option Request) Request
  /-- The jobs that have not ended, in the order in which they were dispatched. -/
  jobs : List Job := []
  /-- The events that have not been handed over, the oldest first. -/
  events : List Event := []
  /-- Whether the pointer was on a marker when it last moved. -/
  hovering : Bool := false

namespace Strip

/-- A new strip; without anything to run on, its worker does not start. -/
def start (settings : Settings) (height : UInt32) (available : Bool) : Strip × List Effect :=
  ({ settings, height, worker := .start none available },
    if available then [] else [.note .workerUnavailable])

def layout (s : Strip) : Layout := ⟨s.settings.metrics, s.settings.lineOffset⟩

def gathering (s : Strip) : Handler (Option Request) Request Verdict :=
  gather s.settings.debounce.toNat

/-! ## Requests -/

/-- Requests the latest diagnostics at the present height. -/
def request (s : Strip) : Strip × List Effect :=
  let (ticket, board) := s.board.draw
  match s.worker.send ⟨ticket, s.latest, s.height⟩ with
  | .ok worker => ({ s with board, worker }, [])
  | .error r => ({ s with board }, [.note (.requestRefused ticket r)])

/-- Replaces the diagnostics. -/
def update (s : Strip) (ds : List Diagnostic) : Strip × List Effect :=
  { s with latest := ds }.request

/-- Asks for the last diagnostics once more, as after a change of the tab. -/
def refresh (s : Strip) : Strip × List Effect := s.request

/-- Changes the height; the same height again changes nothing. -/
def resize (s : Strip) (height : UInt32) : Strip × List Effect :=
  if s.height = height then (s, []) else { s with height }.refresh

/-! ## Behind the scenes -/

/-- Carries out what the worker decided about a request. -/
def carryOut (s : Strip) : Verdict → Strip × List Effect
  | .dispatch r => ({ s with jobs := s.jobs ++ [{ request := r }] }, [])
  | .setAside r => (s, [.setAside r.ticket])

/-- Carries out a list of decisions. -/
def carryOutAll (s : Strip) : List Verdict → Strip × List Effect
  | [] => (s, [])
  | v :: vs => andThen (s.carryOut v) fun s => s.carryOutAll vs

/-- One round of the worker, if it has anything to do. -/
def work (s : Strip) : Strip × List Effect :=
  match s.worker.step s.gathering with
  | none => (s, [])
  | some (worker, _, verdicts) => { s with worker }.carryOutAll verdicts

/-- The place of the job of a ticket. -/
def place? (s : Strip) (t : Ticket) : Option Nat :=
  s.jobs.findIdx? fun j => j.request.ticket == t

/-- Ends the job at a place with its answer: an event, and a note unless it went well. -/
def endJob (s : Strip) (k : Nat) (t : Ticket) (answer : Except ReadFailure Outcome) :
    Strip × List Effect :=
  ({ s with jobs := s.jobs.eraseIdx k, events := s.events ++ [.ofAnswer t answer] },
    (Note.ofAnswer t answer).map .note)

/-- Takes the job at a place one step further. -/
def proceedAt (s : Strip) (k : Nat) (e : Editor) : Strip × List Effect :=
  match s.jobs[k]? with
  | none => (s, [])
  | some j =>
    match j.answer? with
    | some answer => s.endJob k j.request.ticket answer
    | none =>
      let (j, board) := j.proceed s.layout e s.board
      ({ s with board, jobs := s.jobs.set k j }, [])

/-- Takes the job of a ticket one step further. -/
def proceed (s : Strip) (t : Ticket) (e : Editor) : Strip × List Effect :=
  match s.place? t with
  | none => (s, [])
  | some k => s.proceedAt k e

/-- Lets time go by. -/
def elapse (s : Strip) (ms : Nat) : Strip := { s with worker := s.worker.elapse ms }

/-! ## Events -/

/-- Hands all events over, and then repaints. -/
def drain (s : Strip) : Strip × List Effect :=
  ({ s with events := [] },
    s.events.map .delivered ++ (s.events.flatMap Event.repaints).map .call)

/-! ## Pointer and painting -/

/-- The marker that the pointer is on. -/
def markerAt? (s : Strip) (p : Int32) : Option Marker := s.board.markerAt? s.settings.band p

/-- A click brings the diagnostic of the marker under the pointer into view. -/
def click (s : Strip) (p : Int32) : List Effect :=
  match s.markerAt? p with
  | some m => [.call (.scrollTo m.diagnostic), .answered true]
  | none => [.answered false]

/-- A move shows the tooltip of the marker under the pointer; leaving all markers takes it away. -/
def move (s : Strip) (p : Int32) : Strip × List Effect :=
  match s.markerAt? p with
  | some m =>
    ({ s with hovering := true },
      [.call (.setTooltip (some m.tooltip)), .call (.setCursor .hand), .answered true])
  | none =>
    ({ s with hovering := false },
      (if s.hovering then [.call (.setTooltip none), .call (.setCursor .arrow)] else []) ++
        [.answered false])

/-- The rectangles that show the markers on a strip of the given width. -/
def paint (s : Strip) (width : UInt32) : List Fill :=
  s.settings.paint s.board.current width s.height

def preferredSize (s : Strip) : UInt32 × UInt32 := s.settings.preferredSize s.height

end Strip

end MarkerStrip
