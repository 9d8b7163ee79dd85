/-
  Sessions: a strip at work beside its editor.

  A session goes on by single actions, of the user, of the editor and of the
  machinery behind the strip, in any order.

  * `Session.step` is one action, and `Session.run` a list of them;
  * `Session.run_append`: a history goes on where its beginning stopped.
-/
import MarkerStrip.Strip

namespace MarkerStrip

/-- A strip and its editor. -/
structure Session where
  editor : Editor
  strip : Strip

/-- What may happen next. -/
inductive Action where
  | update (ds : List Diagnostic)
  | refresh
  | resize (height : UInt32)
  /-- The worker makes a round. -/
  | work
  | elapse (ms : Nat)
  /-- The computation for a ticket makes a step. -/
  | proceed (t : Ticket)
  | drain
  | click (p : Int32)
  | move (p : Int32)
  | switchTab (tab : UInt64)
  | setDocument (tab : UInt64) (d : Option Document)
deriving Repr, DecidableEq

namespace Session

/-- A session whose strip has just been made. -/
def start (editor : Editor) (settings : Settings) (height : UInt32) (available : Bool) :
    Session × List Effect :=
  let (strip, effects) := Strip.start settings height available
  (⟨editor, strip⟩, effects)

/-- Lets the strip do something. -/
def onStrip (s : Session) (f : Strip → Strip × List Effect) : Session × List Effect :=
  let (strip, effects) := f s.strip
  ({ s with strip }, effects)

/-- One action. -/
def step (s : Session) : Action → Session × List Effect
  | .update ds => s.onStrip fun strip => strip.update ds
  | .refresh => s.onStrip Strip.refresh
  | .resize height => s.onStrip fun strip => strip.resize height
  | .work => s.onStrip Strip.work
  | .elapse ms => s.onStrip fun strip => (strip.elapse ms, [])
  | .proceed t => s.onStrip fun strip => strip.proceed t s.editor
  | .drain => s.onStrip Strip.drain
  | .click p => s.onStrip fun strip => (strip, strip.click p)
  | .move p => s.onStrip fun strip => strip.move p
  | .switchTab tab => ({ s with editor := s.editor.switchTab tab }, [])
  | .setDocument tab d => ({ s with editor := s.editor.setDocument tab d }, [])

/-- A list of actions, with all their effects. -/
def run (s : Session) : List Action → Session × List Effect
  | [] => (s, [])
  | a :: as => andThen (s.step a) fun s => s.run as

/-- A history goes on where its beginning stopped. -/
theorem run_append (s : Session) (as bs : List Action) :
    s.run (as ++ bs) = andThen (s.run as) fun s => s.run bs := by
  induction as generalizing s with
  | nil => simp [run, andThen]
  | cons a as ih => simp only [List.cons_append, run, ih, andThen_assoc]

end Session

end MarkerStrip
