/-
  Mailboxes: first-in, first-out queues with room for a fixed number of
  values.

  An offer never waits.  It is refused when the receiver no longer listens,
  even if the mailbox is full as well, and else when the mailbox is full.  A
  receiver that has closed the mailbox still gets what was waiting; one that
  is gone gets nothing more.

  * `Mailbox.offer_eq_ok_iff` and `Mailbox.take?_eq_some_iff` say when the two
    ends of a mailbox succeed, and what is in it afterwards.
-/

namespace MarkerStrip

/-- What has become of the receiving end. -/
inductive Receiver where
  | listening
  | closed
  | gone
deriving Repr, DecidableEq

/-- Why an offer is refused. -/
inductive Refusal where
  | full
  | notListening
deriving Repr, DecidableEq

/-- A queue with room for `capacity` values, the oldest first. -/
structure Mailbox (α : Type) where
  capacity : Nat
  receiver : Receiver := .listening
  waiting : List α := []
deriving Repr, DecidableEq

namespace Mailbox

variable {α : Type}

/-- Adds a value behind those that wait. -/
def offer (m : Mailbox α) (a : α) : Except Refusal (Mailbox α) :=
  if m.receiver ≠ .listening then .error .notListening
  else if m.waiting.length < m.capacity then .ok { m with waiting := m.waiting ++ [a] }
  else .error .full

/-- Takes the oldest value that waits. -/
def take? (m : Mailbox α) : Option (α × Mailbox α) :=
  match m.waiting with
  | [] => none
  | a :: rest => some (a, { m with waiting := rest })

/-- The receiver accepts no more values. -/
def close (m : Mailbox α) : Mailbox α :=
  if m.receiver = .gone then m else { m with receiver := .closed }

@[simp]
theorem capacity_close (m : Mailbox α) : m.close.capacity = m.capacity := by
  unfold close
  split <;> rfl

@[simp]
theorem waiting_close (m : Mailbox α) : m.close.waiting = m.waiting := by
  unfold close
  split <;> rfl

@[simp]
theorem receiver_close (m : Mailbox α) :
    m.close.receiver = if m.receiver = .gone then .gone else .closed := by
  unfold close
  split
  · next gone => exact gone
  · rfl

/-- The receiver goes away, and with it all values that wait. -/
def drop (m : Mailbox α) : Mailbox α :=
  { m with receiver := .gone, waiting := [] }

/-- An offer is accepted iff somebody listens and there is room, and it then stands last. -/
theorem offer_eq_ok_iff {m m' : Mailbox α} {a : α} :
    m.offer a = .ok m' ↔ m.receiver = .listening ∧ m.waiting.length < m.capacity ∧
      m' = { m with waiting := m.waiting ++ [a] } := by
  unfold offer
  split
  · next h => simp [h]
  · next h =>
    have h : m.receiver = .listening := Decidable.not_not.1 h
    split
    · next hl => simp [h, hl, eq_comm]
    · next hl => simp [hl]

/-- What is taken is what stood first, and nothing else changes. -/
theorem take?_eq_some_iff {m m' : Mailbox α} {a : α} :
    m.take? = some (a, m') ↔
      m.waiting = a :: m'.waiting ∧ m' = { m with waiting := m'.waiting } := by
  unfold take?
  split
  · next h => simp [h]
  · next b rest h =>
    constructor
    · intro he
      obtain ⟨rfl, rfl⟩ := Prod.mk.inj (Option.some.inj he)
      exact ⟨h, rfl⟩
    · rintro ⟨hw, hm⟩
      obtain ⟨rfl, rfl⟩ := List.cons.inj (h.symm.trans hw)
      rw [← hm]

end Mailbox

/-- What the refusal of a request says. -/
def Refusal.reason : Refusal → String
  | full => "recompute queue is full"
  | notListening => "recompute worker is not running"

def Refusal.message (r : Refusal) : String :=
  "failed to schedule marker recompute: " ++ r.reason

end MarkerStrip
