/-
  Workers: loops that handle the values of a mailbox one after the other and
  may put work off until a deadline.

  In every round a worker takes the oldest value that waits, whatever the
  clock says.  With nothing waiting it ends if the sender is gone, and else
  finishes what it has put off once the deadline has come.  The clock moves
  between rounds only.

  * `Handler` says what happens to a value and at a deadline;
  * `Worker.step` is one round, and nothing where the worker is idle;
  * `Worker.run` makes a number of rounds, and `Worker.settle` as many as are
    needed, of which `Worker.rank` is a bound (`Worker.rank_step_lt`);
  * `Worker.step_settle_eq_none`: a settled worker is idle.
-/
import MarkerStrip.Mailbox

namespace MarkerStrip

/-! ## Handlers -/

/-- What a worker does: `σ` is its memory, `ε` what it receives, `ω` what it puts out. -/
structure Handler (σ ε ω : Type) where
  /-- Handles a value, given the time and the deadline so far; answers with the next deadline. -/
  receive : (now : Nat) → (deadline : Option Nat) → ε → σ → σ × List ω × Option Nat
  /-- Does what has been put off. -/
  flush : (now : Nat) → σ → σ × List ω

/-- One round of a worker, for the record. -/
inductive Activity (ε : Type) where
  /-- A value was handled at `now`, with the deadline then and the deadline since. -/
  | received (event : ε) (now : Nat) (deadline next : Option Nat)
  /-- The deadline had come. -/
  | flushed (now : Nat)
  /-- The sender was gone. -/
  | ended
deriving Repr, DecidableEq

/-! ## Workers -/

/-- A worker with its mailbox and its clock, in milliseconds. -/
structure Worker (σ ε : Type) where
  mailbox : Mailbox ε
  memory : σ
  senderGone : Bool := false
  deadline : Option Nat := none
  clock : Nat := 0

namespace Worker

variable {σ ε ω : Type}

/-- The number of values that may wait. -/
def capacity : Nat := 256

/-- A worker that has just been started, or that could not be. -/
def start (memory : σ) (available : Bool) : Worker σ ε :=
  let mailbox : Mailbox ε := { capacity }
  { mailbox := if available then mailbox else mailbox.drop, memory }

/-- Whether the worker still makes rounds. -/
def isAlive (w : Worker σ ε) : Bool := w.mailbox.receiver == .listening

/-- Sends a value to the worker. -/
def send (w : Worker σ ε) (e : ε) : Except Refusal (Worker σ ε) :=
  (w.mailbox.offer e).map fun mailbox => { w with mailbox }

/-- The sender goes away. -/
def abandon (w : Worker σ ε) : Worker σ ε := { w with senderGone := true }

/-- Lets time go by. -/
def elapse (w : Worker σ ε) (ms : Nat) : Worker σ ε := { w with clock := w.clock + ms }

/-- Whether there is a deadline that has come. -/
def isDue (w : Worker σ ε) : Bool := w.deadline.any fun d => decide (d ≤ w.clock)

/-- Handles a value. -/
def receive (h : Handler σ ε ω) (w : Worker σ ε) (e : ε) : Worker σ ε × Activity ε × List ω :=
  let (memory, out, next) := h.receive w.clock w.deadline e w.memory
  ({ w with memory, deadline := next }, .received e w.clock w.deadline next, out)

/-- Does what has been put off. -/
def flush (h : Handler σ ε ω) (w : Worker σ ε) : Worker σ ε × Activity ε × List ω :=
  let (memory, out) := h.flush w.clock w.memory
  ({ w with memory, deadline := none }, .flushed w.clock, out)

/-- Ends; what had been put off is lost. -/
def quit (w : Worker σ ε) : Worker σ ε :=
  { w with mailbox := w.mailbox.drop, deadline := none }

/-- One round, if there is anything to do. -/
def step (h : Handler σ ε ω) (w : Worker σ ε) : Option (Worker σ ε × Activity ε × List ω) :=
  if w.isAlive then
    match w.mailbox.take? with
    | some (e, mailbox) => some ({ w with mailbox }.receive h e)
    | none =>
      if w.senderGone then some (w.quit, .ended, [])
      else if w.isDue then some (w.flush h)
      else none
  else none

/-- A bound on the rounds that can be made before more values or more time come. -/
def rank (w : Worker σ ε) : Nat :=
  2 * w.mailbox.waiting.length + w.deadline.isSome.toNat + w.isAlive.toNat

theorem rank_receive_lt (h : Handler σ ε ω) {w : Worker σ ε} {e : ε} {mailbox : Mailbox ε}
    (ht : w.mailbox.take? = some (e, mailbox)) :
    ({ w with mailbox }.receive h e).1.rank < w.rank := by
  obtain ⟨hw, hm⟩ := Mailbox.take?_eq_some_iff.1 ht
  have hl : w.mailbox.waiting.length = mailbox.waiting.length + 1 := by rw [hw, List.length_cons]
  have ha : ({ w with mailbox }.receive h e).1.isAlive = w.isAlive := by
    show (mailbox.receiver == .listening) = _
    rw [hm, isAlive]
  have hd := Bool.toNat_le (h.receive w.clock w.deadline e w.memory).2.2.isSome
  show 2 * mailbox.waiting.length + (h.receive w.clock w.deadline e w.memory).2.2.isSome.toNat +
    ({ w with mailbox }.receive h e).1.isAlive.toNat < w.rank
  rw [ha, rank]
  omega

theorem rank_quit_lt {w : Worker σ ε} (ha : w.isAlive = true) : w.quit.rank < w.rank := by
  have hq : w.quit.rank = 0 := rfl
  rw [hq, rank, ha, Bool.toNat_true]
  omega

theorem rank_flush_lt (h : Handler σ ε ω) {w : Worker σ ε} (hd : w.isDue = true) :
    (w.flush h).1.rank < w.rank := by
  have hs : w.deadline.isSome := by
    cases hs : w.deadline <;> simp_all [isDue]
  simp [rank, flush, isAlive, hs]

/-- Every round brings a worker nearer to rest. -/
theorem rank_step_lt {h : Handler σ ε ω} {w : Worker σ ε} {r : Worker σ ε × Activity ε × List ω}
    (hs : w.step h = some r) : r.1.rank < w.rank := by
  unfold step at hs
  split at hs
  · next alive =>
    split at hs
    · next ht => exact Option.some.inj hs ▸ rank_receive_lt h ht
    · split at hs
      · exact Option.some.inj hs ▸ rank_quit_lt alive
      · split at hs
        · next due => exact Option.some.inj hs ▸ rank_flush_lt h due
        · contradiction
  · contradiction

/-- At most `n` rounds, with their record and what they put out. -/
def run (h : Handler σ ε ω) : Nat → Worker σ ε → Worker σ ε × List (Activity ε × List ω)
  | 0, w => (w, [])
  | n + 1, w =>
    match w.step h with
    | none => (w, [])
    | some (w, a, out) =>
      let (w, rest) := run h n w
      (w, (a, out) :: rest)

/-- All rounds that can be made. -/
def settle (h : Handler σ ε ω) (w : Worker σ ε) : Worker σ ε × List (Activity ε × List ω) :=
  run h w.rank w

/-- After as many rounds as the rank there is nothing left to do. -/
theorem step_run_eq_none (h : Handler σ ε ω) {n : Nat} {w : Worker σ ε} (hn : w.rank ≤ n) :
    (run h n w).1.step h = none := by
  induction n generalizing w with
  | zero =>
    cases hs : w.step h with
    | none => exact hs
    | some r => exact absurd (rank_step_lt hs) (by omega)
  | succ n ih =>
    simp only [run]
    split
    · next hs => exact hs
    · next hs =>
      have hr := rank_step_lt hs
      exact ih (Nat.le_of_lt_succ (Nat.lt_of_lt_of_le hr hn))

/-- A settled worker is idle. -/
theorem step_settle_eq_none (h : Handler σ ε ω) (w : Worker σ ε) : (w.settle h).1.step h = none :=
  step_run_eq_none h (Nat.le_refl _)

/-- Lets time go by between two settlements, the first of which a jump leaves out. -/
def advance (h : Handler σ ε ω) (w : Worker σ ε) (ms : Nat) (jump : Bool) :
    Worker σ ε × List (Activity ε × List ω) :=
  let (w, before) := if jump then (w, []) else w.settle h
  let (w, after) := (w.elapse ms).settle h
  (w, before ++ after)

end Worker

end MarkerStrip
