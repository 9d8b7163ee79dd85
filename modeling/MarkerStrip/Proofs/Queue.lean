/-
  What a bounded queue promises to those who use it.

  Any queue will do that hands out first what came in first and has room for a
  number of values.  Nobody else uses it meanwhile, so a sender who waits for
  room waits in vain, and the queue does what a mailbox does.

  * `Queue.IsFifo` says what is asked of a queue, through a view of its states,
    and `Queue.IsFifo.run` that its runs are those of a mailbox;
  * `Mailbox.Carries` tells what is in a mailbox after a run, and
    `Mailbox.Carries.use` that one use more keeps it true;
  * `Queue.Contract` collects what follows for senders and the receiver.
-/
import Mathlib.Data.List.Basic
import MarkerStrip.Queue
import MarkerStrip.Worker

namespace MarkerStrip

/-! ## First in, first out -/

namespace Queue

variable {χ α : Type} {Q : Queue χ α} {view : χ → Mailbox α}

/-- What comes in first goes out first: an operation does to the mailbox that `view` shows what it does
    to a mailbox.  Nothing is taken out while a sender waits. -/
structure IsFifo (Q : Queue χ α) (view : χ → Mailbox α) : Prop where
  put : ∀ q a, Prod.map view id (Q.put q a) = (view q).put a
  putWithin : ∀ q ms a, Prod.map view id (Q.putWithin q ms a) = (view q).put a
  take : ∀ q, Prod.map view id (Q.take q) = Mailbox.queue.take (view q)
  close : ∀ q, view (Q.close q) = (view q).close
  drop : ∀ q, view (Q.drop q) = (view q).drop

end Queue

namespace Mailbox

variable {α : Type} {m : Mailbox α} {a : α}

theorem put_of_room (here : m.receiver = .listening) (room : m.waiting.length < m.capacity) :
    m.put a = ({ m with waiting := m.waiting ++ [a] }, none) := by
  rw [put, offer_eq_ok_iff.2 ⟨here, room, rfl⟩]

theorem put_of_full (here : m.receiver = .listening) (full : m.capacity ≤ m.waiting.length) :
    m.put a = (m, some .full) := by
  have offered : m.offer a = .error .full := by
    simp [offer, here, Nat.not_lt.2 full]
  rw [put, offered]

theorem put_of_lost (lost : m.receiver ≠ .listening) : m.put a = (m, some .notListening) := by
  have offered : m.offer a = .error .notListening := by
    simp [offer, lost]
  rw [put, offered]

theorem put_eq_none_iff :
    (m.put a).2 = none ↔ m.receiver = .listening ∧ m.waiting.length < m.capacity := by
  by_cases here : m.receiver = .listening
  · by_cases room : m.waiting.length < m.capacity
    · simp [put_of_room here room, here, room]
    · simp [put_of_full here (Nat.not_lt.1 room), room]
  · simp [put_of_lost here, here]

/-- What is refused changes nothing; it is refused because nobody listens, if that is so. -/
theorem put_of_refused {r : Refusal} (refused : (m.put a).2 = some r) :
    (m.put a).1 = m ∧ r = if m.receiver = .listening then .full else .notListening := by
  by_cases here : m.receiver = .listening
  · by_cases room : m.waiting.length < m.capacity
    · rw [put_of_room here room] at refused
      cases refused
    · rw [put_of_full here (Nat.not_lt.1 room)] at refused ⊢
      cases refused
      exact ⟨rfl, (if_pos here).symm⟩
  · rw [put_of_lost here] at refused ⊢
    cases refused
    exact ⟨rfl, (if_neg here).symm⟩

theorem take_queue_of_nil (empty : m.waiting = []) : queue.take m = (m, none) := by
  simp [queue, take?, empty]

theorem take_queue_of_cons {rest : List α} (first : m.waiting = a :: rest) :
    queue.take m = ({ m with waiting := rest }, some a) := by
  simp [queue, take?, first]

theorem isFifo_queue : queue.IsFifo (id : Mailbox α → Mailbox α) :=
  ⟨fun _ _ => rfl, fun _ _ _ => rfl, fun _ => rfl, fun _ => rfl, fun _ => rfl⟩

end Mailbox

namespace Queue.IsFifo

variable {χ α : Type} {Q : Queue χ α} {view : χ → Mailbox α}

/-- **It makes no difference whether a sender may wait.** -/
theorem send (fifo : Q.IsFifo view) (available : Bool) (q : χ) (a : α) :
    Prod.map view id (Q.send available q a) = (view q).put a := by
  have first := fifo.put q a
  unfold Queue.send
  split
  · next put =>
    rw [put] at first
    exact first
  · next q' put =>
    rw [put] at first
    split
    · -- The mailbox is as full as before, so the wait ends as the first attempt did.
      have refused : ((view q).put a).2 = some .full := first ▸ rfl
      have same : view q' = view q :=
        (congrArg Prod.fst first).trans (Mailbox.put_of_refused refused).1
      have second := fifo.putWithin q' patience a
      rw [same, ← first] at second
      obtain ⟨kept, late⟩ := Prod.mk.inj second
      rw [← first]
      exact Prod.ext kept (congrArg (Option.map fun _ => Refusal.full) late)
    · exact first
  · next put =>
    rw [put] at first
    exact first

end Queue.IsFifo

theorem Mailbox.send_queue {α : Type} (available : Bool) (m : Mailbox α) (a : α) :
    queue.send available m a = m.put a :=
  isFifo_queue.send available m a

/-- A worker's mailbox is such a queue. -/
theorem Worker.send_eq {σ ε : Type} (w : Worker σ ε) (available : Bool) (e : ε) :
    w.send e =
      match Mailbox.queue.send available w.mailbox e with
      | (mailbox, none) => .ok { w with mailbox }
      | (_, some r) => .error r := by
  rw [Mailbox.send_queue, Mailbox.put, Worker.send]
  cases w.mailbox.offer e <;> rfl

namespace Queue.IsFifo

variable {χ α : Type} {Q : Queue χ α} {view : χ → Mailbox α}

theorem use (fifo : Q.IsFifo view) (q : χ) (u : Use α) :
    Prod.map view id (Q.use q u) = Mailbox.queue.use (view q) u := by
  cases u with
  | send available a =>
    have there := Mailbox.send_queue available (view q) a
    obtain ⟨state, answer⟩ := Prod.mk.inj ((fifo.send available q a).trans there.symm)
    exact Prod.ext state (congrArg (fun why => Option.elim why (Answer.accepted a) .refused) answer)
  | receive =>
    obtain ⟨state, answer⟩ := Prod.mk.inj (fifo.take q)
    exact Prod.ext state (congrArg Answer.received answer)
  | close => exact Prod.ext (fifo.close q) rfl
  | drop => exact Prod.ext (fifo.drop q) rfl

/-- **What is seen of a run is the run of a mailbox.** -/
theorem run (fifo : Q.IsFifo view) (q : χ) (us : List (Use α)) :
    Prod.map view id (Q.run q us) = Mailbox.queue.run (view q) us := by
  induction us generalizing q with
  | nil => rfl
  | cons u us ih =>
    obtain ⟨state, answer⟩ := Prod.mk.inj (fifo.use q u)
    have rest := ih (Q.use q u).1
    rw [show view (Q.use q u).1 = _ from state] at rest
    obtain ⟨states, answers⟩ := Prod.mk.inj rest
    exact Prod.ext states (congrArg₂ List.cons answer answers)

end Queue.IsFifo

/-! ## Runs of a mailbox -/

/-- The value that was accepted. -/
def Answer.accepted? {α : Type} : Answer α → Option α
  | accepted a => some a
  | _ => none

/-- The value that was received. -/
def Answer.received? {α : Type} : Answer α → Option α
  | received a => a
  | _ => none

namespace Queue

variable {α : Type} (ys : List (Answer α)) (y : Answer α)

/-- The values that were accepted, in the order in which they were sent. -/
def accepted (ys : List (Answer α)) : List α := ys.filterMap Answer.accepted?

/-- The values that were received, in the order in which they were. -/
def received (ys : List (Answer α)) : List α := ys.filterMap Answer.received?

theorem accepted_concat : accepted (ys ++ [y]) = accepted ys ++ y.accepted?.toList := by
  rw [accepted, List.filterMap_append]
  cases hy : y.accepted? <;> simp [accepted, hy]

theorem received_concat : received (ys ++ [y]) = received ys ++ y.received?.toList := by
  rw [received, List.filterMap_append]
  cases hy : y.received? <;> simp [received, hy]

end Queue

open Queue (accepted received accepted_concat received_concat)

namespace Mailbox

variable {α : Type} {m : Mailbox α} {n : Nat} {us : List (Use α)} {ys : List (Answer α)}

/-- What a mailbox with room for `n` values has in it after the uses `us` with the answers `ys`. -/
structure Carries (n : Nat) (us : List (Use α)) (ys : List (Answer α)) (m : Mailbox α) : Prop where
  capacity : m.capacity = n
  bounded : m.waiting.length ≤ n
  listening_iff : m.receiver = .listening ↔ .close ∉ us ∧ .drop ∉ us
  gone_iff : m.receiver = .gone ↔ .drop ∈ us
  before : received ys <+: accepted ys
  /-- All that was accepted has been received or waits, unless the receiver is gone. -/
  kept : .drop ∉ us → accepted ys = received ys ++ m.waiting
  lost : .drop ∈ us → m.waiting = []

theorem use_send (available : Bool) (m : Mailbox α) (a : α) :
    queue.use m (.send available a) =
      ((m.put a).1, (m.put a).2.elim (.accepted a) .refused) := by
  rw [Queue.use, send_queue]

namespace Carries

theorem still (carries : Carries n us ys m) {u : Use α} {y : Answer α} (unclosed : u ≠ .close)
    (undropped : u ≠ .drop) (unaccepted : y.accepted? = none) (unreceived : y.received? = none) :
    Carries n (us ++ [u]) (ys ++ [y]) m := by
  have ⟨capacity, bounded, listening_iff, gone_iff, before, kept, lost⟩ := carries
  constructor <;>
    simpa [accepted_concat, received_concat, unaccepted, unreceived, unclosed.symm,
      undropped.symm]

theorem send (carries : Carries n us ys m) (available : Bool) (a : α) :
    Carries n (us ++ [.send available a]) (ys ++ [(queue.use m (.send available a)).2])
      (queue.use m (.send available a)).1 := by
  have ⟨capacity, bounded, listening_iff, gone_iff, before, kept, lost⟩ := carries
  rw [use_send]
  by_cases here : m.receiver = .listening
  · by_cases room : m.waiting.length < m.capacity
    · rw [put_of_room here room]
      have present := (listening_iff.1 here).2
      have split := kept present
      constructor
      · exact capacity
      · show (m.waiting ++ [a]).length ≤ n
        rw [List.length_append]
        exact capacity ▸ room
      · simpa using listening_iff
      · simpa using gone_iff
      · rw [accepted_concat, received_concat]
        simpa [Answer.received?] using before.trans (List.prefix_append _ _)
      · rw [accepted_concat, received_concat]
        simp [Answer.accepted?, Answer.received?, split]
      · simp [present]
    · rw [put_of_full here (Nat.not_lt.1 room)]
      exact carries.still nofun nofun rfl rfl
  · rw [put_of_lost here]
    exact carries.still nofun nofun rfl rfl

theorem receive (carries : Carries n us ys m) :
    Carries n (us ++ [.receive]) (ys ++ [(queue.use m .receive).2])
      (queue.use m .receive).1 := by
  have ⟨capacity, bounded, listening_iff, gone_iff, before, kept, lost⟩ := carries
  rcases waiting : m.waiting with _ | ⟨a, rest⟩
  · rw [Queue.use, take_queue_of_nil waiting]
    exact carries.still nofun nofun rfl rfl
  · rw [Queue.use, take_queue_of_cons waiting]
    -- Something waits, so the receiver cannot be gone.
    have present : .drop ∉ us := by
      intro gone
      cases waiting.symm.trans (lost gone)
    have split := kept present
    rw [waiting] at split bounded
    constructor
    · exact capacity
    · exact Nat.le_of_succ_le bounded
    · simpa using listening_iff
    · simpa using gone_iff
    · rw [accepted_concat, received_concat]
      exact ⟨rest, by simp [Answer.accepted?, Answer.received?, split]⟩
    · rw [accepted_concat, received_concat]
      simp [Answer.accepted?, Answer.received?, split]
    · simp [present]

theorem close (carries : Carries n us ys m) :
    Carries n (us ++ [.close]) (ys ++ [.done]) m.close := by
  have ⟨capacity, bounded, listening_iff, gone_iff, before, kept, lost⟩ := carries
  have same_accepted : accepted (ys ++ [.done]) = accepted ys := by
    simp [accepted_concat, Answer.accepted?]
  have same_received : received (ys ++ [.done]) = received ys := by
    simp [received_concat, Answer.received?]
  constructor
  · rw [capacity_close, capacity]
  · rw [waiting_close]
    exact bounded
  · rw [receiver_close]
    split <;> simp
  · rw [receiver_close]
    split
    · next gone => simpa using gone_iff.1 gone
    · next present => simpa using mt gone_iff.2 present
  · rw [same_accepted, same_received]
    exact before
  · rw [same_accepted, same_received, waiting_close]
    simpa using kept
  · rw [waiting_close]
    simpa using lost

theorem drop (carries : Carries n us ys m) :
    Carries n (us ++ [.drop]) (ys ++ [.done]) m.drop where
  capacity := carries.capacity
  bounded := Nat.zero_le n
  listening_iff := by simp [Mailbox.drop]
  gone_iff := by simp [Mailbox.drop]
  before := by
    rw [accepted_concat, received_concat]
    simpa [Answer.accepted?, Answer.received?] using carries.before
  kept := by simp
  lost := by
    intro _
    rfl

/-- **One use more**, and its answer. -/
theorem use (carries : Carries n us ys m) (u : Use α) :
    Carries n (us ++ [u]) (ys ++ [(queue.use m u).2]) (queue.use m u).1 := by
  cases u with
  | send available a => exact carries.send available a
  | receive => exact carries.receive
  | close => exact carries.close
  | drop => exact carries.drop

theorem run (carries : Carries n us ys m) (vs : List (Use α)) :
    Carries n (us ++ vs) (ys ++ (queue.run m vs).2) (queue.run m vs).1 := by
  induction vs generalizing us ys m with
  | nil => simpa [Queue.run] using carries
  | cons u vs ih =>
    have rest := ih (carries.use u)
    rw [List.append_assoc, List.append_assoc] at rest
    exact rest

theorem start (n : Nat) (us : List (Use α)) :
    Carries n us (queue.run { capacity := n } us).2 (queue.run { capacity := n } us).1 := by
  have new : Carries n [] [] ({ capacity := n } : Mailbox α) := by
    constructor <;> simp [accepted, received]
  exact new.run us

end Carries

/-- Receiving again and again empties a mailbox. -/
theorem run_receives (k : Nat) (m : Mailbox α) :
    (queue.run m (List.replicate k .receive)).1.waiting = m.waiting.drop k ∧
      accepted (queue.run m (List.replicate k .receive)).2 = [] := by
  induction k generalizing m with
  | zero => exact ⟨rfl, rfl⟩
  | succ k ih =>
    rw [List.replicate_succ, Queue.run, Queue.use]
    rcases waiting : m.waiting with _ | ⟨a, rest⟩
    · rw [take_queue_of_nil waiting]
      obtain ⟨empty, silent⟩ := ih m
      rw [waiting] at empty
      exact ⟨by simpa using empty, silent⟩
    · rw [take_queue_of_cons waiting]
      exact ih _

/-- **All that was accepted can be received**, also after the mailbox was closed. -/
theorem received_of_receives (carries : Carries n us ys m) (present : .drop ∉ us) {k : Nat}
    (enough : m.waiting.length ≤ k) :
    received (ys ++ (queue.run m (.close :: List.replicate k .receive)).2) = accepted ys := by
  have after := carries.run (.close :: List.replicate k .receive)
  obtain ⟨empty, silent⟩ := run_receives k m.close
  have kept := after.kept (by simp [present, List.mem_replicate])
  have waiting : (queue.run m (.close :: List.replicate k .receive)).1.waiting = [] := by
    refine empty.trans ?_
    rw [waiting_close]
    exact List.drop_eq_nil_of_le enough
  rw [waiting, List.append_nil] at kept
  rw [← kept, accepted, List.filterMap_append]
  show _ ++ accepted (queue.run m.close (List.replicate k .receive)).2 = _
  rw [silent, List.append_nil, accepted]

end Mailbox

/-! ## The contract -/

theorem Refusal.message_notListening_iff (r : Refusal) :
    r.message = "failed to schedule marker recompute: recompute worker is not running" ↔
      r = .notListening := by
  cases r <;> decide +kernel

theorem Refusal.message_full_iff (r : Refusal) :
    r.message = "failed to schedule marker recompute: recompute queue is full" ↔ r = .full := by
  cases r <;> decide +kernel

namespace Queue

variable {χ α : Type} {Q : Queue χ α} {view : χ → Mailbox α} {n : Nat} {q : χ}

/-- What holds after the uses `us` of the queue `Q`; it was new in the state `q` and has room for
    `n` values, of which `view` tells those that wait. -/
structure Contract (Q : Queue χ α) (view : χ → Mailbox α) (n : Nat) (q : χ) (us : List (Use α)) :
    Prop where
  bounded : (view (Q.run q us).1).waiting.length ≤ n
  /-- A value is accepted iff the receiver listens and there is room, and stands last then. -/
  accepts_iff : ∀ available a, (Q.send available (Q.run q us).1 a).2 = none ↔
    .close ∉ us ∧ .drop ∉ us ∧ (view (Q.run q us).1).waiting.length < n
  accepts : ∀ available a, (Q.send available (Q.run q us).1 a).2 = none →
    (view (Q.send available (Q.run q us).1 a).1).waiting = (view (Q.run q us).1).waiting ++ [a]
  /-- A value that is refused changes nothing.  The sender is told that nobody listens if that is so,
      and that the queue is full if not. -/
  refuses : ∀ available a r, (Q.send available (Q.run q us).1 a).2 = some r →
    view (Q.send available (Q.run q us).1 a).1 = view (Q.run q us).1 ∧
      (r.message = "failed to schedule marker recompute: recompute worker is not running" ↔
        .close ∈ us ∨ .drop ∈ us) ∧
      (r.message = "failed to schedule marker recompute: recompute queue is full" ↔
        ¬(.close ∈ us ∨ .drop ∈ us))
  /-- Values are received in the order in which they were accepted, without a gap. -/
  received : received (Q.run q us).2 <+: accepted (Q.run q us).2
  kept : .drop ∉ us →
    accepted (Q.run q us).2 = Queue.received (Q.run q us).2 ++ (view (Q.run q us).1).waiting
  /-- Closing does not take away what waits. -/
  closed : .drop ∉ us → ∀ k, (view (Q.run q us).1).waiting.length ≤ k →
    Queue.received (Q.run q (us ++ .close :: List.replicate k .receive)).2 =
      accepted (Q.run q us).2
  /-- Nothing is received from a receiver that is gone. -/
  gone : .drop ∈ us → (Q.take (Q.run q us).1).2 = none

/-- **Senders and the receiver can rely on the queue**, however it is used. -/
theorem contract_of_isFifo (fifo : Q.IsFifo view) (new : view q = { capacity := n })
    (us : List (Use α)) : Q.Contract view n q us := by
  have answers (vs : List (Use α)) : (Q.run q vs).2 = (Mailbox.queue.run { capacity := n } vs).2 :=
    new ▸ congrArg Prod.snd (fifo.run q vs)
  have carries : Mailbox.Carries n us (Q.run q us).2 (view (Q.run q us).1) := by
    have state : view (Q.run q us).1 = (Mailbox.queue.run { capacity := n } us).1 :=
      new ▸ congrArg Prod.fst (fifo.run q us)
    rw [state, answers]
    exact .start n us
  have sent (available : Bool) (a : α) :
      view (Q.send available (Q.run q us).1 a).1 = ((view (Q.run q us).1).put a).1 ∧
        (Q.send available (Q.run q us).1 a).2 = ((view (Q.run q us).1).put a).2 :=
    Prod.mk.inj (fifo.send available (Q.run q us).1 a)
  have lost_iff : (view (Q.run q us).1).receiver ≠ .listening ↔ .close ∈ us ∨ .drop ∈ us := by
    rw [Ne, carries.listening_iff, ← not_or, not_not]
  constructor
  · exact carries.bounded
  · intro available a
    rw [(sent available a).2, Mailbox.put_eq_none_iff, carries.listening_iff, carries.capacity,
      and_assoc]
  · intro available a accepted
    obtain ⟨state, answer⟩ := sent available a
    obtain ⟨here, room⟩ := Mailbox.put_eq_none_iff.1 (answer.symm.trans accepted)
    rw [state, Mailbox.put_of_room here room]
  · intro available a r refused
    obtain ⟨state, answer⟩ := sent available a
    obtain ⟨same, why⟩ := Mailbox.put_of_refused (answer.symm.trans refused)
    refine ⟨state.trans same, ?_⟩
    rw [← lost_iff, r.message_notListening_iff, r.message_full_iff, why]
    by_cases here : (view (Q.run q us).1).receiver = .listening
    · simp [here]
    · simp [here]
  · exact carries.before
  · exact carries.kept
  · intro present k enough
    have drained := Mailbox.received_of_receives carries present enough
    have rest := congrArg Prod.snd (fifo.run (Q.run q us).1 (.close :: List.replicate k .receive))
    rw [← drained, run_append, ← rest]
    rfl
  · intro gone
    have empty := carries.lost gone
    exact (congrArg Prod.snd (fifo.take _)).trans (by rw [Mailbox.take_queue_of_nil empty])

/-- A mailbox with room for one value, closed while one waits. -/
theorem contract_of_room_for_one :
    let us : List (Use Nat) := [.send true 1, .send true 2, .receive, .send false 3, .send false 4,
      .close, .send true 5, .receive, .receive]
    let m : Mailbox Nat := { capacity := 1 }
    Mailbox.queue.IsFifo (id : Mailbox Nat → Mailbox Nat) ∧ id m = { capacity := 1 } ∧
      Mailbox.queue.Contract id 1 m us ∧ (Mailbox.queue.run m us).2 =
        [.accepted 1, .refused .full, .received (some 1), .accepted 3, .refused .full, .done,
          .refused .notListening, .received (some 3), .received none] := by
  intro us m
  exact ⟨Mailbox.isFifo_queue, rfl, contract_of_isFifo Mailbox.isFifo_queue rfl us, by decide⟩

end Queue

end MarkerStrip
