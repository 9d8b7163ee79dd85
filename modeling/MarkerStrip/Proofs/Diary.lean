/-
  What a worker does, in the order in which it does it.

  A worker that keeps a diary of what it was sent, of the time that went by
  and of its rounds has no secrets: what waits for it, what it remembers and
  when it has to finish can all be read there.  So the rules that it goes by
  can be said of diaries, each by what has been written before.

  * `Entry` and the functions on lists of entries are the diary;
    `Entry.Lawful` are the rules: what may be written after what;
  * `Worker.Writes` says how a diary comes about, one entry after the other,
    and `Worker.Records` what a diary says of its worker;
  * `Worker.Does.lawful` and `Worker.Records.does`: an entry obeys the rules,
    and the diary goes on telling the truth;
  * `Worker.Disciplined` collects what follows for scripts of commands.
-/
import Mathlib.Algebra.GroupWithZero.Nat
import MarkerStrip.Proofs.Turn

namespace MarkerStrip

/-! ## Diaries -/

/-- An entry of a worker's diary. -/
inductive Entry (ε : Type) where
  /-- A value was sent, and accepted or refused. -/
  | sent (event : ε) (accepted : Bool)
  /-- The sender went away. -/
  | abandoned
  | elapsed (ms : Nat)
  /-- The worker made a round. -/
  | round (activity : Activity ε)
deriving Repr, DecidableEq

namespace Entry

variable {σ ε ω : Type}

/-- The value that was accepted. -/
def accepted? : Entry ε → Option ε
  | sent e true => some e
  | _ => none

def activity? : Entry ε → Option (Activity ε)
  | round a => some a
  | _ => none

/-- The value that was handled. -/
def handled? : Entry ε → Option ε
  | round (.received e _ _ _) => some e
  | _ => none

/-- Whether what had been put off was done. -/
def isFlush : Entry ε → Bool
  | round (.flushed _) => true
  | _ => false

theorem exists_of_isFlush {x : Entry ε} (h : x.isFlush = true) :
    ∃ now, x = round (.flushed now) := by
  unfold isFlush at h
  split at h
  · exact ⟨_, rfl⟩
  · cases h

def isEnd : Entry ε → Bool
  | round .ended => true
  | _ => false

def isAbandonment : Entry ε → Bool
  | abandoned => true
  | _ => false

/-- The time that went by. -/
def ms : Entry ε → Nat
  | elapsed ms => ms
  | _ => 0

/-- The deadline since, where it was `deadline` before: what the handler answered last, unless that
    has been done. -/
def deadline (deadline : Option Nat) : Entry ε → Option Nat
  | round (.received _ _ _ next) => next
  | round (.flushed _) | round .ended => none
  | _ => deadline

/-- The handler's memory since, where it was `m` before. -/
def memory (h : Handler σ ε ω) (m : σ) : Entry ε → σ
  | round (.received e now deadline _) => (h.receive now deadline e m).1
  | round (.flushed now) => (h.flush now m).1
  | _ => m

end Entry

namespace Diary

variable {σ ε ω : Type}

/-- The values that were accepted, in the order in which they were sent. -/
def accepted (d : List (Entry ε)) : List ε := d.filterMap Entry.accepted?

/-- The values that were handled, in the order in which they were. -/
def handled (d : List (Entry ε)) : List ε := d.filterMap Entry.handled?

/-- The values that were accepted and have not been handled. -/
def pending (d : List (Entry ε)) : List ε := (accepted d).drop (handled d).length

def clock (d : List (Entry ε)) : Nat := (d.map Entry.ms).sum

def deadline (d : List (Entry ε)) : Option Nat := d.foldl Entry.deadline none

def memory (h : Handler σ ε ω) (m : σ) (d : List (Entry ε)) : σ := d.foldl (Entry.memory h) m

def hasEnded (d : List (Entry ε)) : Bool := d.any Entry.isEnd

def isAbandoned (d : List (Entry ε)) : Bool := d.any Entry.isAbandonment

/-- The handler answered the deadline `t` the last time, and what was put off has not been done
    since. -/
def Stands (d : List (Entry ε)) (t : Nat) : Prop :=
  ∃ a b e now deadline, d = a ++ .round (.received e now deadline (some t)) :: b ∧
    ∀ x ∈ b, x.handled? = none ∧ x.isFlush = false

section
variable (d : List (Entry ε)) (x : Entry ε)

theorem accepted_concat : accepted (d ++ [x]) = accepted d ++ x.accepted?.toList := by
  rw [accepted, List.filterMap_append]
  cases hx : x.accepted? <;> simp [accepted, hx]

theorem handled_concat : handled (d ++ [x]) = handled d ++ x.handled?.toList := by
  rw [handled, List.filterMap_append]
  cases hx : x.handled? <;> simp [handled, hx]

theorem clock_concat : clock (d ++ [x]) = clock d + x.ms := by simp [clock]

theorem deadline_concat : deadline (d ++ [x]) = x.deadline (deadline d) := by
  rw [deadline, List.foldl_append]
  rfl

theorem memory_concat (h : Handler σ ε ω) (m : σ) :
    memory h m (d ++ [x]) = x.memory h (memory h m d) := by
  rw [memory, List.foldl_append]
  rfl

theorem hasEnded_concat : hasEnded (d ++ [x]) = (hasEnded d || x.isEnd) := by simp [hasEnded]

theorem isAbandoned_concat : isAbandoned (d ++ [x]) = (isAbandoned d || x.isAbandonment) := by
  simp [isAbandoned]

/-- A sender that is gone does not come back. -/
theorem isAbandoned_append {d : List (Entry ε)} (gone : isAbandoned d = true)
    (b : List (Entry ε)) : isAbandoned (d ++ b) = true := by
  rw [isAbandoned, List.any_append, ← isAbandoned, gone, Bool.true_or]

end

/-- A deadline stays as it is until a value is handled or what was put off is done. -/
theorem deadline_append_of_quiet (d : List (Entry ε)) {b : List (Entry ε)}
    (quiet : ∀ x ∈ b, x.handled? = none ∧ x.isFlush = false) (running : hasEnded b = false) :
    deadline (d ++ b) = deadline d := by
  induction b using List.reverseRecOn with
  | nil => rw [List.append_nil]
  | append_singleton b x ih =>
    obtain ⟨running, unended⟩ := Bool.or_eq_false_iff.1 (hasEnded_concat b x ▸ running)
    obtain ⟨unhandled, unflushed⟩ := quiet x (by simp)
    rw [← List.append_assoc, deadline_concat,
      ih (fun y hy => quiet y (List.mem_append_left _ hy)) running]
    rcases x with _ | _ | _ | _ | _ | _
    · rfl
    · rfl
    · rfl
    · cases unhandled
    · cases unflushed
    · cases unended

theorem stands_of_deadline {d : List (Entry ε)} {t : Nat} (set : deadline d = some t) :
    Stands d t := by
  induction d using List.reverseRecOn with
  | nil => cases set
  | append_singleton d x ih =>
    rw [deadline_concat] at set
    have later (kept : x.deadline (deadline d) = deadline d)
        (quiet : x.handled? = none ∧ x.isFlush = false) : Stands (d ++ [x]) t := by
      obtain ⟨a, b, e, now, before, rfl, unhandled⟩ := ih (kept ▸ set)
      refine ⟨a, b ++ [x], e, now, before, by simp, fun y hy => ?_⟩
      rcases List.mem_append.1 hy with hy | hy
      · exact unhandled y hy
      · exact List.mem_singleton.1 hy ▸ quiet
    rcases x with _ | _ | _ | ⟨e, now, before, next⟩ | _ | _
    · exact later rfl ⟨rfl, rfl⟩
    · exact later rfl ⟨rfl, rfl⟩
    · exact later rfl ⟨rfl, rfl⟩
    · exact ⟨d, [], e, now, before, set ▸ rfl, by simp⟩
    · cases set
    · cases set

theorem deadline_append_eq_none {d b : List (Entry ε)} (unset : deadline d = none)
    (unhandled : ∀ x ∈ b, x.handled? = none) : deadline (d ++ b) = none := by
  induction b using List.reverseRecOn with
  | nil => rwa [List.append_nil]
  | append_singleton b x ih =>
    have hx := unhandled x (by simp)
    rw [← List.append_assoc, deadline_concat,
      ih fun y hy => unhandled y (List.mem_append_left _ hy)]
    rcases x with _ | _ | _ | _ | _ | _ <;> first | rfl | cases hx

/-- While the worker runs, the deadline is the one that stands. -/
theorem deadline_eq_some_iff {d : List (Entry ε)} (running : hasEnded d = false) {t : Nat} :
    deadline d = some t ↔ Stands d t := by
  refine ⟨stands_of_deadline, ?_⟩
  rintro ⟨a, b, e, now, before, rfl, quiet⟩
  have running : hasEnded b = false := by
    simp only [hasEnded, List.any_append, List.any_cons, Bool.or_eq_false_iff] at running
    exact running.2.2
  rw [List.append_cons, deadline_append_of_quiet _ quiet running, deadline_concat]
  rfl

end Diary

open Diary

/-! ## Rules -/

/-- **The rules**: what may be written into the diary `d` of a worker with the handler `h`, whose
    memory was `m` at first, and which had something to run on or not. -/
def Entry.Lawful {σ ε ω : Type} (h : Handler σ ε ω) (m : σ) (available : Bool)
    (d : List (Entry ε)) : Entry ε → Prop
  | sent _ accepted =>
    (accepted = true ↔ available = true ∧ hasEnded d = false ∧ isAbandoned d = false ∧
      (pending d).length < Worker.capacity)
  | abandoned | elapsed _ => True
  | round (.received e now deadline next) =>
    available = true ∧ hasEnded d = false ∧ (pending d).head? = some e ∧ now = clock d ∧
      deadline = Diary.deadline d ∧ next = (h.receive now deadline e (Diary.memory h m d)).2.2
  | round (.flushed now) =>
    available = true ∧ hasEnded d = false ∧ pending d = [] ∧ isAbandoned d = false ∧
      now = clock d ∧ ∃ t, Diary.deadline d = some t ∧ t ≤ now
  | round .ended =>
    available = true ∧ hasEnded d = false ∧ pending d = [] ∧ isAbandoned d = true

namespace Worker

variable {σ ε ω : Type} {h : Handler σ ε ω} {m : σ} {available : Bool} {w u v : Worker σ ε}
  {d d' : List (Entry ε)} {x : Entry ε}

/-! ## Keeping a diary -/

/-- One entry, and the worker before and after. -/
inductive Does (h : Handler σ ε ω) (w : Worker σ ε) : Entry ε → Worker σ ε → Prop where
  | accepted {e : ε} {v : Worker σ ε} (here : w.senderGone = false) (sent : w.send e = .ok v) :
      Does h w (.sent e true) v
  /-- A sender that is gone cannot send. -/
  | refused {e : ε} (why : w.senderGone = true ∨ ∃ r, w.send e = .error r) :
      Does h w (.sent e false) w
  | abandoned : Does h w .abandoned w.abandon
  | elapsed (ms : Nat) : Does h w (.elapsed ms) (w.elapse ms)
  | round {v : Worker σ ε} {a : Activity ε} {out : List ω} (step : w.step h = some (v, a, out)) :
      Does h w (.round a) v

/-- A diary that leads from one worker to another. -/
inductive Writes (h : Handler σ ε ω) (w : Worker σ ε) : List (Entry ε) → Worker σ ε → Prop where
  | nil : Writes h w [] w
  | concat {d : List (Entry ε)} {u v : Worker σ ε} {x : Entry ε} (before : Writes h w d u)
      (last : Does h u x v) : Writes h w (d ++ [x]) v

theorem Does.writes (does : Does h w x v) : Writes h w [x] v := .concat .nil does

theorem Writes.append (first : Writes h w d u) (second : Writes h u d' v) :
    Writes h w (d ++ d') v := by
  induction second with
  | nil => rwa [List.append_nil]
  | concat before last ih =>
    rw [← List.append_assoc]
    exact .concat ih last

/-- What a diary says of its worker. -/
structure Records (h : Handler σ ε ω) (m : σ) (available : Bool) (d : List (Entry ε))
    (w : Worker σ ε) : Prop where
  waiting : accepted d = handled d ++ w.mailbox.waiting
  memory : w.memory = Diary.memory h m d
  deadline : w.deadline = Diary.deadline d
  clock : w.clock = Diary.clock d
  alive : w.isAlive = (available && !hasEnded d)
  sender : w.senderGone = isAbandoned d
  capacity : w.mailbox.capacity = Worker.capacity
  asleep : w.isAlive = false → w.mailbox.waiting = []

namespace Records

theorem start (h : Handler σ ε ω) (m : σ) (available : Bool) :
    Records h m available [] (.start m available) := by
  cases available <;> exact ⟨rfl, rfl, rfl, rfl, rfl, rfl, rfl, fun _ => rfl⟩

theorem pending (records : Records h m available d w) : pending d = w.mailbox.waiting := by
  rw [Diary.pending, records.waiting, List.drop_left]

theorem of_alive (records : Records h m available d w) (alive : w.isAlive = true) :
    available = true ∧ hasEnded d = false := by
  simpa [alive] using records.alive.symm

end Records

theorem waiting_of_take? {ε : Type} {b : Mailbox ε} (h : b.take? = none) : b.waiting = [] := by
  unfold Mailbox.take? at h
  split at h
  · assumption
  · cases h

/-- The rounds that a worker can make: it handles a value, or else ends, or else does what it has
    put off. -/
inductive Round (h : Handler σ ε ω) (w : Worker σ ε) : Worker σ ε → Activity ε → Prop where
  | received {e : ε} {rest : List ε} (first : w.mailbox.waiting = e :: rest) :
      Round h w ({ w with mailbox := { w.mailbox with waiting := rest } }.receive h e).1
        (.received e w.clock w.deadline (h.receive w.clock w.deadline e w.memory).2.2)
  | ended (empty : w.mailbox.waiting = []) (gone : w.senderGone = true) : Round h w w.quit .ended
  | flushed (empty : w.mailbox.waiting = []) (here : w.senderGone = false) (due : w.isDue = true) :
      Round h w (w.flush h).1 (.flushed w.clock)

theorem round_of_step {a : Activity ε} {out : List ω} (step : w.step h = some (v, a, out)) :
    w.isAlive = true ∧ Round h w v a := by
  unfold Worker.step at step
  split at step
  · next alive =>
    refine ⟨alive, ?_⟩
    split at step
    · next e mailbox taken =>
      obtain ⟨first, rest⟩ := Mailbox.take?_eq_some_iff.1 taken
      cases step
      rw [rest]
      exact .received first
    · next taken =>
      have empty := waiting_of_take? taken
      split at step
      · next gone =>
        cases step
        exact .ended empty gone
      · next here =>
        split at step
        · next due =>
          cases step
          exact .flushed empty (eq_false_of_ne_true here) due
        · cases step
  · cases step

theorem hasRoom_of_send {e : ε} (sent : w.send e = .ok v) : w.hasRoom = true ∧ v = w.enqueue e := by
  rcases room : w.hasRoom with _ | _
  · obtain ⟨r, refused⟩ := send_of_full room e
    cases refused.symm.trans sent
  · exact ⟨rfl, Except.ok.inj (sent.symm.trans (send_of_hasRoom room e))⟩

theorem Records.hasRoom_iff (records : Records h m available d w) :
    w.hasRoom = true ↔ available = true ∧ hasEnded d = false ∧
      (Diary.pending d).length < Worker.capacity := by
  rw [hasRoom, records.alive, records.capacity, records.pending]
  simp [and_assoc]

/-- **An entry obeys the rules.** -/
theorem Does.lawful (does : Does h w x v) (records : Records h m available d w) :
    x.Lawful h m available d := by
  cases does with
  | accepted here sent =>
    obtain ⟨available, running, room⟩ := records.hasRoom_iff.1 (hasRoom_of_send sent).1
    exact ⟨fun _ => ⟨available, running, records.sender.symm.trans here, room⟩, fun _ => rfl⟩
  | @refused e why =>
    refine ⟨nofun, ?_⟩
    rintro ⟨available, running, here, room⟩
    rcases why with gone | ⟨r, refused⟩
    · cases gone.symm.trans (records.sender.trans here)
    · have room := records.hasRoom_iff.2 ⟨available, running, room⟩
      cases refused.symm.trans (send_of_hasRoom room e)
  | abandoned | elapsed => trivial
  | round step =>
    obtain ⟨alive, round⟩ := round_of_step step
    obtain ⟨available, running⟩ := records.of_alive alive
    cases round with
    | received first =>
      refine ⟨available, running, ?_, records.clock, records.deadline, ?_⟩
      · rw [records.pending, first]
        rfl
      · rw [records.memory]
    | ended empty gone =>
      exact ⟨available, running, records.pending.trans empty, records.sender.symm.trans gone⟩
    | flushed empty here due =>
      refine ⟨available, running, records.pending.trans empty, records.sender.symm.trans here,
        records.clock, ?_⟩
      rw [← records.deadline]
      rcases hd : w.deadline with _ | t
      · simp [isDue, hd] at due
      · exact ⟨t, rfl, by simpa [isDue, hd] using due⟩

/-- A diary tells the truth after one more entry that does. -/
theorem Records.concat
    (waiting : accepted d ++ x.accepted?.toList =
      handled d ++ x.handled?.toList ++ v.mailbox.waiting)
    (memory : v.memory = x.memory h (Diary.memory h m d))
    (deadline : v.deadline = x.deadline (Diary.deadline d))
    (clock : v.clock = Diary.clock d + x.ms)
    (alive : v.isAlive = (available && !(hasEnded d || x.isEnd)))
    (sender : v.senderGone = (isAbandoned d || x.isAbandonment))
    (capacity : v.mailbox.capacity = Worker.capacity)
    (asleep : v.isAlive = false → v.mailbox.waiting = []) :
    Records h m available (d ++ [x]) v where
  waiting := by rwa [accepted_concat, handled_concat]
  memory := by rwa [memory_concat]
  deadline := by rwa [deadline_concat]
  clock := by rwa [clock_concat]
  alive := by rwa [hasEnded_concat]
  sender := by rwa [isAbandoned_concat]
  capacity := capacity
  asleep := asleep

/-- **A diary goes on telling the truth.** -/
theorem Records.does (records : Records h m available d w) (does : Does h w x v) :
    Records h m available (d ++ [x]) v := by
  have ⟨waiting, memory, deadline, clock, alive, sender, capacity, asleep⟩ := records
  -- most entries neither end the worker nor tell that the sender is gone
  have alive_false : w.isAlive = (available && !(hasEnded d || false)) := by
    rw [alive, Bool.or_false]
  have sender_false : w.senderGone = (isAbandoned d || false) := by rw [sender, Bool.or_false]
  have waiting_nil : accepted d ++ [] = handled d ++ [] ++ w.mailbox.waiting := by
    rw [List.append_nil, List.append_nil, waiting]
  cases does with
  | @accepted e _ here sent =>
    obtain ⟨room, rfl⟩ := hasRoom_of_send sent
    refine .concat ?_ memory deadline clock alive_false sender_false capacity ?_
    · show accepted d ++ [e] = handled d ++ [] ++ (w.mailbox.waiting ++ [e])
      rw [waiting, List.append_nil, List.append_assoc]
    · intro dead
      rw [hasRoom, show w.isAlive = false from dead] at room
      cases room
  | refused why =>
    exact .concat waiting_nil memory deadline clock alive_false sender_false capacity asleep
  | abandoned =>
    exact .concat waiting_nil memory deadline clock alive_false (Bool.or_true _).symm capacity
      asleep
  | elapsed ms =>
    exact .concat waiting_nil memory deadline (congrArg (· + ms) clock) alive_false sender_false
      capacity asleep
  | round step =>
    obtain ⟨living, round⟩ := round_of_step step
    cases round with
    | @received e rest first =>
      refine .concat ?_ ?_ rfl clock alive_false sender_false capacity ?_
      · show accepted d ++ [] = handled d ++ [e] ++ rest
        rw [waiting, first]
        simp
      · rw [← memory]
        rfl
      · intro dead
        cases living.symm.trans dead
    | ended empty gone =>
      refine .concat ?_ memory rfl clock ?_ sender_false capacity fun _ => rfl
      · rw [empty] at waiting_nil
        exact waiting_nil
      · show false = _
        rw [Entry.isEnd, Bool.or_true, Bool.not_true, Bool.and_false]
    | flushed empty here due =>
      refine .concat waiting_nil ?_ rfl clock alive_false sender_false capacity asleep
      rw [← memory]
      rfl

/-- A diary obeys the rules and tells the truth, however far it is written. -/
theorem Records.writes (records : Records h m available d w) (writes : Writes h w d' v) :
    Records h m available (d ++ d') v ∧
      ∀ a x, a ++ [x] <+: d' → x.Lawful h m available (d ++ a) := by
  induction writes with
  | nil =>
    rw [List.append_nil]
    refine ⟨records, fun a x before => ?_⟩
    simp at before
  | @concat d' u v x before last ih =>
    obtain ⟨known, lawful⟩ := ih
    rw [← List.append_assoc]
    refine ⟨known.does last, fun a y here => ?_⟩
    rcases List.prefix_concat_iff.1 here with same | earlier
    · obtain ⟨rfl, entry⟩ := List.append_inj' same rfl
      exact List.singleton_inj.1 entry ▸ last.lawful known
    · exact lawful a y earlier

/-! ## Scripts -/

/-- What may be asked of a worker and of its clock. -/
inductive Command (ε : Type) where
  | send (e : ε)
  | settle
  | advance (ms : Nat) (jump : Bool)
  /-- The sender goes away. -/
  | abandon
deriving Repr, DecidableEq

/-- Whether the worker is settled in the end. -/
def Command.settles : Command ε → Bool
  | settle | advance _ _ => true
  | send _ | abandon => false

/-- The entries about some rounds. -/
def entries (rounds : List (Activity ε × List ω)) : List (Entry ε) := rounds.map fun r => .round r.1

/-- Carries one command out, and writes down what happens. -/
def obey (h : Handler σ ε ω) (w : Worker σ ε) : Command ε → Worker σ ε × List (Entry ε)
  | .send e =>
    if w.senderGone then (w, [.sent e false])
    else
      match w.send e with
      | .ok w => (w, [.sent e true])
      | .error _ => (w, [.sent e false])
  | .settle =>
    let (w, rounds) := w.settle h
    (w, entries rounds)
  | .advance ms jump =>
    let (w, before) := if jump then (w, []) else w.settle h
    let (w, after) := (w.elapse ms).settle h
    (w, entries before ++ .elapsed ms :: entries after)
  | .abandon => (w.abandon, [.abandoned])

theorem filterMap_entries (rounds : List (Activity ε × List ω)) :
    (entries rounds).filterMap Entry.activity? = rounds.map Prod.fst := by
  rw [entries, List.filterMap_map]
  exact congrFun (List.filterMap_eq_map (f := Prod.fst)) rounds

/-- Letting time go by is what it is for a worker without a diary. -/
theorem obey_advance (h : Handler σ ε ω) (w : Worker σ ε) (ms : Nat) (jump : Bool) :
    (w.obey h (.advance ms jump)).1 = (w.advance h ms jump).1 ∧
      (w.obey h (.advance ms jump)).2.filterMap Entry.activity? =
        (w.advance h ms jump).2.map Prod.fst := by
  refine ⟨rfl, ?_⟩
  simp only [obey, advance, List.filterMap_append, List.map_append, filterMap_entries,
    List.filterMap_cons, Entry.activity?]

/-- Carries out one command after the other. -/
def perform (h : Handler σ ε ω) (w : Worker σ ε) : List (Command ε) → Worker σ ε × List (Entry ε)
  | [] => (w, [])
  | c :: cs =>
    let (w, now) := w.obey h c
    let (w, later) := perform h w cs
    (w, now ++ later)

theorem writes_run (h : Handler σ ε ω) (n : Nat) (w : Worker σ ε) :
    Writes h w (entries (run h n w).2) (run h n w).1 := by
  induction n generalizing w with
  | zero => exact .nil
  | succ n ih =>
    simp only [run]
    split
    · exact .nil
    · next step => exact (Does.round step).writes.append (ih _)

theorem writes_settle (h : Handler σ ε ω) (w : Worker σ ε) :
    Writes h w (entries (w.settle h).2) (w.settle h).1 := writes_run h w.rank w

theorem writes_obey (h : Handler σ ε ω) (w : Worker σ ε) (c : Command ε) :
    Writes h w (w.obey h c).2 (w.obey h c).1 := by
  cases c with
  | send e =>
    simp only [obey]
    split
    · next gone => exact (Does.refused (.inl gone)).writes
    · next here =>
      split
      · next sent => exact (Does.accepted (eq_false_of_ne_true here) sent).writes
      · next refused => exact (Does.refused (.inr ⟨_, refused⟩)).writes
  | settle => exact writes_settle h w
  | advance ms jump =>
    have before : Writes h w (entries (if jump then (w, []) else w.settle h).2)
        (if jump then (w, []) else w.settle h).1 := by
      cases jump with
      | true => exact .nil
      | false => exact writes_settle h w
    exact before.append ((Does.elapsed ms).writes.append (writes_settle h _))
  | abandon => exact Does.abandoned.writes

theorem writes_perform (h : Handler σ ε ω) (w : Worker σ ε) (cs : List (Command ε)) :
    Writes h w (w.perform h cs).2 (w.perform h cs).1 := by
  induction cs generalizing w with
  | nil => exact .nil
  | cons c cs ih => exact (writes_obey h w c).append (ih _)

/-- An idle worker has ended, or waits for a value or its deadline. -/
theorem of_step_eq_none (idle : w.step h = none) :
    w.isAlive = false ∨
      w.mailbox.waiting = [] ∧ w.senderGone = false ∧ ∀ t, w.deadline = some t → w.clock < t := by
  unfold Worker.step at idle
  split at idle
  · right
    split at idle
    · cases idle
    · next taken =>
      split at idle
      · cases idle
      · next here =>
        split at idle
        · cases idle
        · next undue =>
          refine ⟨waiting_of_take? taken, eq_false_of_ne_true here, fun t ht => ?_⟩
          simpa [isDue, ht] using undue
  · next dead => exact .inl (eq_false_of_ne_true dead)

theorem step_obey_eq_none {c : Command ε} (settles : c.settles = true) (w : Worker σ ε) :
    (w.obey h c).1.step h = none := by
  cases c with
  | settle => exact step_settle_eq_none h w
  | advance ms jump => exact step_settle_eq_none h _
  | send | abandon => cases settles

/-- All numbers of rounds that are large enough come to the same. -/
theorem run_eq_run {n k : Nat} (hn : w.rank ≤ n) (hk : w.rank ≤ k) : run h n w = run h k w := by
  induction n generalizing w k with
  | zero =>
    have idle : w.step h = none := step_run_eq_none h hn
    cases k with
    | zero => rfl
    | succ k => simp only [run, idle]
  | succ n ih =>
    rcases step : w.step h with _ | ⟨v, a, out⟩
    · cases k with
      | zero => simp only [run, step]
      | succ k => simp only [run, step]
    · have lower : v.rank < w.rank := rank_step_lt step
      cases k with
      | zero => exact absurd hk (Nat.not_le.2 (Nat.zero_lt_of_lt lower))
      | succ k =>
        simp only [run, step]
        rw [ih (w := v) (k := k) (by omega) (by omega)]

/-- What settling a worker leads to; `d` is what it has written before, and `now` what it writes. -/
structure Settled (w : Worker σ ε) (available : Bool) (d now : List (Entry ε)) : Prop where
  /-- All that was accepted has been handled. -/
  handled : handled (d ++ now) = accepted (d ++ now)
  empty : w.mailbox.waiting = []
  /-- What is still put off does not have to be done yet. -/
  undue : w.isAlive = false ∨ ∀ t, w.deadline = some t → w.clock < t
  /-- Without a sender the worker ends, and does not do what it has put off. -/
  ended : isAbandoned d = true →
    w.isAlive = false ∧ (available = true → hasEnded (d ++ now) = true) ∧
      ∀ x ∈ now, x.isFlush = false

/-- What holds of a worker with the diary `d`. -/
structure Disciplined (h : Handler σ ε ω) (m : σ) (available : Bool) (d : List (Entry ε))
    (w : Worker σ ε) : Prop where
  /-- The diary says all of the worker. -/
  records : Records h m available d w
  /-- Every entry obeys the rules. -/
  lawful : ∀ d' x, d' ++ [x] <+: d → x.Lawful h m available d'
  /-- What was accepted is handled in the order in which it was sent, and once. -/
  handled : handled d <+: accepted d
  /-- The handler is told the deadline that it answered the time before, unless there was no such
      time or what was put off has been done since. -/
  told : ∀ d' e now deadline next, d' ++ [.round (.received e now deadline next)] <+: d →
    ∀ t, deadline = some t ↔ Stands d' t
  /-- Something is put off until the deadline that the handler answered the last time. -/
  due : ∀ d' now, d' ++ [.round (.flushed now)] <+: d → ∃ t, Stands d' t ∧ t ≤ now
  /-- Nothing is done twice: something is handled in between. -/
  once : ∀ a b n n', a ++ .round (.flushed n) :: b ++ [.round (.flushed n')] <+: d →
    ∃ x ∈ b, x.handled?.isSome
  /-- Settling comes to an end, after a number of rounds that can be told before. -/
  terminates : (w.settle h).1.step h = none ∧ ∀ n, w.rank ≤ n → run h n w = w.settle h
  settled : ∀ c : Command ε, c.settles = true →
    Settled (w.obey h c).1 available d (w.obey h c).2

theorem Records.settled (records : Records h m available d w) {c : Command ε}
    (settles : c.settles = true) :
    Settled (w.obey h c).1 available d (w.obey h c).2 := by
  obtain ⟨after, lawful⟩ := records.writes (writes_obey h w c)
  have idle := of_step_eq_none (step_obey_eq_none (h := h) settles w)
  have empty : (w.obey h c).1.mailbox.waiting = [] := idle.elim after.asleep And.left
  refine ⟨?_, empty, idle.imp_right fun rest => rest.2.2, fun gone => ?_⟩
  · rw [after.waiting, empty, List.append_nil]
  · have still := isAbandoned_append gone
    have dead : (w.obey h c).1.isAlive = false := idle.resolve_right fun rest => by
      cases rest.2.1.symm.trans (after.sender.trans (still _))
    refine ⟨dead, ?_, ?_⟩
    · rintro rfl
      have alive := after.alive
      rw [dead, Bool.true_and] at alive
      simpa using alive.symm
    · intro x hx
      rcases flush : x.isFlush with _ | _
      · rfl
      · obtain ⟨a, b, split⟩ := List.append_of_mem hx
        have rule := lawful a x ⟨b, by rw [split, List.append_assoc]; rfl⟩
        obtain ⟨now, rfl⟩ := Entry.exists_of_isFlush flush
        obtain ⟨-, -, -, here, -⟩ := rule
        cases here.symm.trans (still a)

/-- **A worker keeps its rules**, whatever it is asked for: what is sent to it is accepted while
    there is room, and handled once and in order; what it puts off is done when nothing waits, the
    sender is there and the deadline has come, and not twice; and settling leaves nothing to do. -/
theorem disciplined_perform (h : Handler σ ε ω) (m : σ) (available : Bool) (cs : List (Command ε)) :
    let x := perform h (start m available) cs
    Disciplined h m available x.2 x.1 := by
  intro x
  obtain ⟨records, lawful⟩ := (Records.start h m available).writes (writes_perform h _ cs)
  refine ⟨records, lawful, ⟨x.1.mailbox.waiting, records.waiting.symm⟩, ?_, ?_, ?_,
    ⟨step_settle_eq_none h x.1, fun n enough => run_eq_run enough (Nat.le_refl _)⟩,
    fun c settles => records.settled settles⟩
  · intro d e now deadline next here t
    obtain ⟨-, running, -, -, told, -⟩ := lawful d _ here
    rw [told]
    exact deadline_eq_some_iff running
  · intro d now here
    obtain ⟨-, -, -, -, -, t, set, past⟩ := lawful d _ here
    exact ⟨t, stands_of_deadline set, past⟩
  · intro a b n n' here
    obtain ⟨-, -, -, -, -, t, set, -⟩ := lawful _ _ here
    by_contra unhandled
    have quiet : ∀ x ∈ b, x.handled? = none := by
      simpa using unhandled
    rw [List.nil_append, List.append_cons, deadline_append_eq_none _ quiet] at set
    · cases set
    · rw [deadline_concat]
      rfl

end Worker

end MarkerStrip
