/-
  Rehearsals: sessions in which one thing happens at a time.

  Nothing happens behind the scenes until the rehearsal is settled; then the
  worker makes all rounds it can, and the jobs it dispatched run one after the
  other, each to its end.  Only a reading that is held back lets later jobs
  pass, until it is released.

  * `Rehearsal.settle` and `Rehearsal.advance` let things happen;
  * `Rehearsal.request` makes a request, followed to its end at once in an
    eager rehearsal;
  * `Rehearsal.hold` and `Rehearsal.release` put readings in another order.
-/
import MarkerStrip.Session

namespace MarkerStrip

/-- A session in which one thing happens at a time. -/
structure Rehearsal where
  session : Session
  /-- How many of the readings to come are held back. -/
  holds : Nat := 0
  /-- Whether every request is followed to its end before the next. -/
  eager : Bool := false

namespace Rehearsal

/-- The actions that take a job from its reading to its end. -/
def readActions (t : Ticket) : List Action := [.proceed t, .proceed t, .proceed t]

/-- The actions that follow a dispatch: the job starts, and ends unless its reading is held back. -/
def jobActions (hold : Bool) (t : Ticket) : List Action :=
  .proceed t :: if hold then [] else readActions t

/-- Lists of actions in the rehearsed session. -/
def run (r : Rehearsal) (as : List Action) : Rehearsal × List Effect :=
  let (session, effects) := r.session.run as
  ({ r with session }, effects)

/-- Takes one job as far as it goes. -/
def advanceJob (r : Rehearsal) (t : Ticket) : Rehearsal × List Effect :=
  { r with holds := r.holds - 1 }.run (jobActions (decide (0 < r.holds)) t)

/-- Takes the jobs of some tickets as far as they go, one after the other. -/
def advanceJobs (r : Rehearsal) : List Ticket → Rehearsal × List Effect
  | [] => (r, [])
  | t :: ts => andThen (r.advanceJob t) fun r => r.advanceJobs ts

/-- The tickets of the jobs that have not started. -/
def unstarted (r : Rehearsal) : List Ticket :=
  (r.session.strip.jobs.filter Job.isNew).map fun j => j.request.ticket

/-- The tickets of the jobs whose reading is held back, the oldest first. -/
def held (r : Rehearsal) : List Ticket :=
  (r.session.strip.jobs.filter Job.isReading).map fun j => j.request.ticket

/-- Lets the worker make all rounds it can, and then takes the dispatched jobs as far as they go. -/
def settle (r : Rehearsal) : Rehearsal × List Effect :=
  andThen (r.run (List.replicate r.session.strip.worker.rank .work)) fun r =>
    r.advanceJobs r.unstarted

/-- Makes a request by an action, and follows it to its end if the rehearsal is eager. -/
def request (r : Rehearsal) (a : Action) : Rehearsal × List Effect :=
  andThen (r.run [a]) fun r => if r.eager then r.settle else (r, [])

/-- Makes the same request a number of times. -/
def requestTimes (r : Rehearsal) (a : Action) : Nat → Rehearsal × List Effect
  | 0 => (r, [])
  | n + 1 => andThen (r.request a) fun r => r.requestTimes a n

/-- Lets time go by between two settlements, the first of which a jump leaves out. -/
def advance (r : Rehearsal) (ms : Nat) (jump : Bool) : Rehearsal × List Effect :=
  andThen (if jump then (r, []) else r.settle) fun r =>
    andThen (r.run [.elapse ms]) settle

/-- Holds one more reading back. -/
def hold (r : Rehearsal) : Rehearsal := { r with holds := r.holds + 1 }

/-- Lets one of the readings held back go on, if there is one at that place. -/
def release (r : Rehearsal) (place : Nat) : Rehearsal × List Effect :=
  andThen (r.run ((r.held[place]?).toList.flatMap readActions)) settle

end Rehearsal

end MarkerStrip
