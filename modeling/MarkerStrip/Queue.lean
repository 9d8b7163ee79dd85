/-
  Queues between those who send values and the one who receives them.

  A value is put in at once where that can be done.  Where the queue is full,
  a sender with something to run on waits a little for room.

  * `Queue` are the operations that a queue has, and `Mailbox.queue` those of
    a mailbox that nobody else uses meanwhile;
  * `Queue.send` is what a sender does with them;
  * `Queue.use` is one use of a queue, and `Queue.run` a list of them.
-/
import MarkerStrip.Mailbox

namespace MarkerStrip

/-- The operations of a queue for values in `α` whose states are `χ`.  Where a value is not put in,
    the reason is given. -/
structure Queue (χ α : Type) where
  /-- Puts a value in at once. -/
  put : χ → α → χ × Option Refusal
  /-- Puts a value in as soon as there is room, within some milliseconds. -/
  putWithin : χ → Nat → α → χ × Option Refusal
  take : χ → χ × Option α
  /-- The receiver accepts no more values. -/
  close : χ → χ
  /-- The receiver goes away. -/
  drop : χ → χ

/-- What is done to a queue. -/
inductive Use (α : Type) where
  | send (available : Bool) (a : α)
  | receive
  | close
  | drop
deriving Repr, DecidableEq

/-- What comes of it. -/
inductive Answer (α : Type) where
  | accepted (a : α)
  | refused (r : Refusal)
  | received (a : Option α)
  | done
deriving Repr, DecidableEq

namespace Queue

variable {χ α : Type}

/-- How long a sender waits for room, in milliseconds. -/
def patience : Nat := 2

/-- Sends a value.  With something to run on, a sender who finds the queue full waits for room; if
    that is in vain, the queue is said to be full, whatever the reason was. -/
def send (Q : Queue χ α) (available : Bool) (q : χ) (a : α) : χ × Option Refusal :=
  match Q.put q a with
  | (q, none) => (q, none)
  | (q, some .full) =>
    if available then
      let (q, why) := Q.putWithin q patience a
      (q, why.map fun _ => .full)
    else (q, some .full)
  | (q, some .notListening) => (q, some .notListening)

/-- One use of a queue. -/
def use (Q : Queue χ α) (q : χ) : Use α → χ × Answer α
  | .send available a =>
    let (q, why) := Q.send available q a
    (q, why.elim (.accepted a) .refused)
  | .receive =>
    let (q, a) := Q.take q
    (q, .received a)
  | .close => (Q.close q, .done)
  | .drop => (Q.drop q, .done)

/-- A list of uses, with what comes of each. -/
def run (Q : Queue χ α) (q : χ) : List (Use α) → χ × List (Answer α)
  | [] => (q, [])
  | u :: us =>
    let (q, y) := Q.use q u
    let (q, ys) := Q.run q us
    (q, y :: ys)

/-- A run goes on where its beginning stopped. -/
theorem run_append (Q : Queue χ α) (q : χ) (us vs : List (Use α)) :
    Q.run q (us ++ vs) =
      ((Q.run (Q.run q us).1 vs).1, (Q.run q us).2 ++ (Q.run (Q.run q us).1 vs).2) := by
  induction us generalizing q with
  | nil => rfl
  | cons u us ih => simp only [List.cons_append, run, ih]

end Queue

namespace Mailbox

variable {α : Type}

/-- Offers a value; the mailbox stays as it is if that is refused. -/
def put (m : Mailbox α) (a : α) : Mailbox α × Option Refusal :=
  match m.offer a with
  | .ok m => (m, none)
  | .error r => (m, some r)

/-- A mailbox as a queue that nobody else uses meanwhile: waiting for room is in vain. -/
def queue : Queue (Mailbox α) α where
  put := put
  putWithin m _ := m.put
  take m :=
    match m.take? with
    | some (a, m) => (m, some a)
    | none => (m, none)
  close := close
  drop := drop

end Mailbox

end MarkerStrip
