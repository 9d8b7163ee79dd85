/-
  What one action does to a strip.

  All that is said of the runs of a strip rests on one case distinction: an
  action asks for markers, lets the worker make a round, takes a computation
  one step further or ends it, hands the events over, lets time go by, or
  leaves all of this alone.

  * `Turn` lists the cases with all that changes and all effects, and
    `Session.turn_step`: every action is one of them;
  * `Reading` and `Ending` are what it leaves on record, of an offer to the
    board and of the end of a job;
  * `Session.run_induction`: what a new session has and every action keeps
    holds after every run.
-/
import Mathlib.Data.List.Induction
import Mathlib.Data.List.Perm.Basic
import MarkerStrip.Session

namespace MarkerStrip

/-! ## The record of computations -/

@[simp]
theorem Board.drawn_absorb (b : Board) (t : Ticket) (r : Except ReadFailure (List Marker)) :
    (b.absorb t r).2.drawn = b.drawn := by
  rcases r with f | ms
  · rfl
  · simp only [absorb, publish]
    split <;> rfl

@[simp]
theorem Event.ticket_ofAnswer (t : Ticket) (a : Except ReadFailure Outcome) :
    (Event.ofAnswer t a).ticket = t := by
  rcases a with _ | _ | _ <;> rfl

/-- What a computation came to, and what the board answered. -/
structure Reading where
  request : Request
  result : Except ReadFailure (List Marker)
  answer : Except ReadFailure Outcome

def Reading.ticket (x : Reading) : Ticket := x.request.ticket

/-- The end of a job. -/
structure Ending where
  request : Request
  answer : Except ReadFailure Outcome

def Ending.event (x : Ending) : Event := .ofAnswer x.request.ticket x.answer

namespace Job

/-- The reading that a job offers to a board in its next step. -/
def reading? (j : Job) (b : Board) : Option Reading :=
  match j.stage with
  | .read result => some ⟨j.request, result, (b.absorb j.request.ticket result).1⟩
  | _ => none

@[simp]
theorem request_proceed (j : Job) (l : Layout) (e : Editor) (b : Board) :
    (j.proceed l e b).1.request = j.request := by
  unfold proceed
  split <;> rfl

@[simp]
theorem drawn_proceed (j : Job) (l : Layout) (e : Editor) (b : Board) :
    (j.proceed l e b).2.drawn = b.drawn := by
  unfold proceed
  split <;> simp

@[simp]
theorem requests_new (rs : List Request) :
    (rs.map fun r => ({ request := r } : Job)).map request = rs := by
  simp [Function.comp_def]

/-- A board answers the reading that it is offered, and nothing else. -/
theorem reading?_of_answer {j : Job} {l : Layout} {e : Editor} {b : Board}
    {answer : Except ReadFailure Outcome} (under_way : j.answer? = none)
    (h : (j.proceed l e b).1.answer? = some answer) :
    ∃ result, j.reading? b = some ⟨j.request, result, answer⟩ := by
  rcases j with ⟨r, _ | tab | result | a⟩
  · cases h
  · cases h
  · obtain rfl := Option.some.inj h
    exact ⟨result, rfl⟩
  · cases under_way

end Job

/-- A job that goes on keeps its request. -/
theorem requests_set {js : List Job} {k : Nat} {j j' : Job} (at_k : js[k]? = some j)
    (same : j'.request = j.request) :
    (js.set k j').map Job.request = js.map Job.request := by
  obtain ⟨hk, rfl⟩ := List.getElem?_eq_some_iff.1 at_k
  have hk' : k < (js.map Job.request).length := by rwa [List.length_map]
  have := List.set_getElem_self hk'
  rwa [List.getElem_map, ← same, ← List.map_set] at this

/-- Other jobs stay where they are when one goes on. -/
theorem mem_set_of_ne {js : List Job} {k : Nat} {j j' i : Job} (at_k : js[k]? = some j)
    (hi : i ∈ js) (hne : i ≠ j) : i ∈ js.set k j' := by
  obtain ⟨n, hn⟩ := List.mem_iff_getElem?.1 hi
  have hkn : k ≠ n := by
    rintro rfl
    exact hne (Option.some.inj (hn.symm.trans at_k))
  exact List.mem_iff_getElem?.2 ⟨n, by rw [List.getElem?_set_ne hkn, hn]⟩

theorem perm_eraseIdx {js : List Job} {k : Nat} {j : Job} (at_k : js[k]? = some j) :
    (j :: js.eraseIdx k).Perm js := by
  obtain ⟨hk, rfl⟩ := List.getElem?_eq_some_iff.1 at_k
  exact List.getElem_cons_eraseIdx_perm hk

/-- Other jobs stay where they are when one ends. -/
theorem mem_eraseIdx_of_ne {js : List Job} {k : Nat} {j i : Job} (at_k : js[k]? = some j)
    (hi : i ∈ js) (hne : i ≠ j) : i ∈ js.eraseIdx k :=
  (List.mem_cons.1 ((perm_eraseIdx at_k).mem_iff.2 hi)).resolve_left hne

/-! ## The cases -/

/-- What an action asks a strip for: the diagnostics and the height that its request carries. -/
def Strip.asks (s : Strip) : Action → Option (List Diagnostic × UInt32)
  | .update ds => some (ds, s.height)
  | .refresh => some (s.latest, s.height)
  | .resize h => if s.height = h then none else some (s.latest, h)
  | _ => none

/-- An action that leaves all but the pointer and the editor alone. -/
def Strip.Idles (s : Strip) : Action → Prop
  | .resize h => s.height = h
  | .work => s.worker.step s.gathering = none
  | .proceed t => s.place? t = none
  | .click _ | .move _ | .switchTab _ | .setDocument _ _ => True
  | .update _ | .refresh | .elapse _ | .drain => False

/-- The effects that pointing has: none of them is a note, an event or a repaint. -/
def Effect.isPointing : Effect → Bool
  | .call .repaintStrip | .call .repaintText => false
  | .call _ | .answered _ => true
  | .note _ | .setAside _ | .delivered _ => false

/-- Adds a value behind those that wait for a worker. -/
def Worker.enqueue {σ ε : Type} (w : Worker σ ε) (a : ε) : Worker σ ε :=
  { w with mailbox := { w.mailbox with waiting := w.mailbox.waiting ++ [a] } }

/-- A worker that has taken the first value out of its mailbox. -/
def Worker.next {σ ε : Type} (w : Worker σ ε) (rest : List ε) (memory : σ) (deadline : Option Nat) :
    Worker σ ε :=
  { w with mailbox := { w.mailbox with waiting := rest }, memory, deadline }

/-- Whether a worker takes one more value. -/
def Worker.hasRoom {σ ε : Type} (w : Worker σ ε) : Bool :=
  w.isAlive && decide (w.mailbox.waiting.length < w.mailbox.capacity)

/-- What an action may do to a strip beside the editor `e`: the reading offered to the board, the
    job ended, the strip afterwards and all effects. -/
inductive Turn (e : Editor) (s : Strip) :
    Action → Option Reading → Option Ending → Strip → List Effect → Prop where
  /-- A request finds room. -/
  | accepted {a : Action} {ds : List Diagnostic} {h : UInt32} (asked : s.asks a = some (ds, h))
      (room : s.worker.hasRoom = true) :
      Turn e s a none none { s with
        latest := ds, height := h, board := s.board.draw.2
        worker := s.worker.enqueue ⟨s.board.drawn + 1, ds, h⟩ } []
  /-- A request finds no room; what it asked for is remembered. -/
  | refused {a : Action} {ds : List Diagnostic} {h : UInt32} (why : Refusal)
      (asked : s.asks a = some (ds, h)) (full : s.worker.hasRoom = false) :
      Turn e s a none none { s with latest := ds, height := h, board := s.board.draw.2 }
        [.note (.requestRefused (s.board.drawn + 1) why)]
  /-- Without a window a request becomes a job at once. -/
  | dispatched {r : Request} {rest : List Request} (window : s.settings.debounce.toNat = 0)
      (alive : s.worker.isAlive = true) (first : s.worker.mailbox.waiting = r :: rest) :
      Turn e s .work none none { s with
        worker := s.worker.next rest s.worker.memory none
        jobs := s.jobs ++ [{ request := r }] } []
  /-- The first request of a window is kept back. -/
  | kept {r : Request} {rest : List Request} (window : 0 < s.settings.debounce.toNat)
      (alive : s.worker.isAlive = true) (first : s.worker.mailbox.waiting = r :: rest)
      (free : s.worker.memory = none) :
      Turn e s .work none none { s with
        worker :=
          s.worker.next rest (some r) (some (s.worker.clock + s.settings.debounce.toNat)) } []
  /-- A later request takes the place of the one kept back. -/
  | replaced {r k : Request} {rest : List Request} (window : 0 < s.settings.debounce.toNat)
      (alive : s.worker.isAlive = true) (first : s.worker.mailbox.waiting = r :: rest)
      (held : s.worker.memory = some k) (later : k.ticket < r.ticket) :
      Turn e s .work none none { s with
        worker := s.worker.next rest (some r) (some (s.worker.clock + s.settings.debounce.toNat)) }
        [.setAside k.ticket]
  /-- A request that is no later than the one kept back is set aside. -/
  | outrun {r k : Request} {rest : List Request} (window : 0 < s.settings.debounce.toNat)
      (alive : s.worker.isAlive = true) (first : s.worker.mailbox.waiting = r :: rest)
      (held : s.worker.memory = some k) (early : r.ticket ≤ k.ticket) :
      Turn e s .work none none { s with
        worker := s.worker.next rest (some k) (some (s.worker.clock + s.settings.debounce.toNat)) }
        [.setAside r.ticket]
  /-- The deadline has come: the request kept back becomes a job. -/
  | flushed (alive : s.worker.isAlive = true) (empty : s.worker.mailbox.waiting = [])
      (due : s.worker.isDue = true) :
      Turn e s .work none none { s with
        worker := s.worker.next [] none none
        jobs := s.jobs ++ s.worker.memory.toList.map fun r => { request := r } } []
  /-- A computation goes on by a step. -/
  | proceeded {t : Ticket} {k : Nat} {j : Job} (place : s.place? t = some k)
      (at_k : s.jobs[k]? = some j) (under_way : j.answer? = none) :
      Turn e s (.proceed t) (j.reading? s.board) none { s with
        board := (j.proceed s.layout e s.board).2
        jobs := s.jobs.set k (j.proceed s.layout e s.board).1 } []
  /-- A computation that has its answer ends. -/
  | ended {t : Ticket} {k : Nat} {j : Job} {answer : Except ReadFailure Outcome}
      (place : s.place? t = some k) (at_k : s.jobs[k]? = some j)
      (answered : j.answer? = some answer) :
      Turn e s (.proceed t) none (some ⟨j.request, answer⟩) { s with
        jobs := s.jobs.eraseIdx k
        events := s.events ++ [.ofAnswer j.request.ticket answer] }
        ((Note.ofAnswer j.request.ticket answer).map .note)
  /-- All events are handed over. -/
  | drained :
      Turn e s .drain none none { s with events := [] }
        (s.events.map .delivered ++ (s.events.flatMap Event.repaints).map .call)
  | elapsed (ms : Nat) : Turn e s (.elapse ms) none none { s with worker := s.worker.elapse ms } []
  /-- Nothing happens but what concerns pointer and editor. -/
  | still {a : Action} {fx : List Effect} (hovering : Bool) (idle : s.Idles a)
      (pointing : ∀ x ∈ fx, x.isPointing = true) :
      Turn e s a none none { s with hovering } fx

/-! ## Every action is one of them -/

namespace Worker
variable {σ ε ω : Type} {h : Handler σ ε ω} {w : Worker σ ε}

theorem send_of_hasRoom (room : w.hasRoom = true) (a : ε) : w.send a = .ok (w.enqueue a) := by
  simp only [hasRoom, isAlive, Bool.and_eq_true, beq_iff_eq, decide_eq_true_eq] at room
  simp only [send, Mailbox.offer_eq_ok_iff.2 ⟨room.1, room.2, rfl⟩]
  rfl

theorem send_of_full (full : w.hasRoom = false) (a : ε) : ∃ why, w.send a = .error why := by
  rcases hm : w.mailbox.offer a with why | m
  · exact ⟨why, by rw [send, hm]; rfl⟩
  · obtain ⟨hl, hr, -⟩ := Mailbox.offer_eq_ok_iff.1 hm
    simp [hasRoom, isAlive, hl, hr] at full

/-- With a value waiting a worker takes the first one, whatever the clock says. -/
theorem step_of_cons {a : ε} {rest : List ε} (alive : w.isAlive = true)
    (first : w.mailbox.waiting = a :: rest) :
    w.step h = some ({ w with mailbox := { w.mailbox with waiting := rest } }.receive h a) := by
  have ht : w.mailbox.take? = some (a, { w.mailbox with waiting := rest }) :=
    Mailbox.take?_eq_some_iff.2 ⟨first, rfl⟩
  simp only [step, alive, ht, if_true]

/-- With nothing waiting and the sender there, a worker finishes what is due, or is idle. -/
theorem step_of_nil (alive : w.isAlive = true) (empty : w.mailbox.waiting = [])
    (sender : w.senderGone = false) :
    w.step h = if w.isDue then some (w.flush h) else none := by
  have ht : w.mailbox.take? = none := by simp only [Mailbox.take?, empty]
  simp only [step, alive, ht, sender, if_true, Bool.false_eq_true, if_false]

end Worker

variable {e : Editor} {s : Strip}

theorem Strip.carryOutAll_dispatch (s : Strip) (rs : List Request) :
    s.carryOutAll (rs.map .dispatch) =
      ({ s with jobs := s.jobs ++ rs.map fun r => { request := r } }, []) := by
  induction rs generalizing s with
  | nil => simp [carryOutAll]
  | cons r rs ih => simp [carryOutAll, carryOut, andThen, ih]

theorem turn_request {a : Action} {ds : List Diagnostic} {h : UInt32}
    (asked : s.asks a = some (ds, h)) :
    Turn e s a none none ({ s with latest := ds, height := h }.request).1
      ({ s with latest := ds, height := h }.request).2 := by
  rcases hr : s.worker.hasRoom with _ | _
  · obtain ⟨why, hw⟩ := Worker.send_of_full hr ⟨s.board.drawn + 1, ds, h⟩
    have := Turn.refused (e := e) why asked hr
    simpa only [Strip.request, Board.draw, hw] using this
  · have hw := Worker.send_of_hasRoom hr (⟨s.board.drawn + 1, ds, h⟩ : Request)
    have := Turn.accepted (e := e) asked hr
    simpa only [Strip.request, Board.draw, hw] using this

/-- The turn of a worker that takes a request out of its mailbox. -/
theorem turn_receive {r : Request} {rest : List Request} (alive : s.worker.isAlive = true)
    (first : s.worker.mailbox.waiting = r :: rest) :
    Turn e s .work none none s.work.1 s.work.2 := by
  have hs := Worker.step_of_cons (h := s.gathering) alive first
  rw [Strip.work, hs]
  simp only [Worker.receive, Strip.gathering, gather]
  rcases Nat.eq_zero_or_pos s.settings.debounce.toNat with window | window
  · simp only [window, if_true]
    exact .dispatched window alive first
  · have hw : ¬ s.settings.debounce.toNat = 0 := by omega
    simp only [hw, if_false]
    rcases held : s.worker.memory with _ | k
    · exact .kept window alive first held
    · by_cases later : k.ticket < r.ticket
      · simp only [later, if_true]
        exact .replaced window alive first held later
      · simp only [later, if_false]
        exact .outrun window alive first held (Nat.le_of_not_lt later)

theorem turn_work (sender : s.worker.senderGone = false) :
    Turn e s .work none none s.work.1 s.work.2 := by
  rcases alive : s.worker.isAlive with _ | _
  · have idle : s.worker.step s.gathering = none := by simp [Worker.step, alive]
    simp only [Strip.work, idle]
    exact .still _ idle (by simp)
  · rcases first : s.worker.mailbox.waiting with _ | ⟨r, rest⟩
    · have hs := Worker.step_of_nil (h := s.gathering) alive first sender
      by_cases due : s.worker.isDue = true
      · rw [if_pos due] at hs
        rw [Strip.work, hs]
        simp only [Worker.flush, Strip.gathering, gather, Strip.carryOutAll_dispatch]
        have := Turn.flushed (e := e) alive first due
        rwa [Worker.next, ← first] at this
      · rw [if_neg due] at hs
        simp only [Strip.work, hs]
        exact .still _ hs (by simp)
    · exact turn_receive alive first

theorem exists_of_place? {t : Ticket} {k : Nat} (place : s.place? t = some k) :
    ∃ j, s.jobs[k]? = some j ∧ j.request.ticket = t := by
  obtain ⟨hk, hp, -⟩ := List.findIdx?_eq_some_iff_getElem.1 place
  exact ⟨s.jobs[k], List.getElem?_eq_getElem hk, by simpa using hp⟩

namespace Strip

/-- The job that an action takes further. -/
def acted? (s : Strip) : Action → Option Job
  | .proceed t => (s.place? t).bind fun k => s.jobs[k]?
  | _ => none

/-- The reading that an action offers to the board. -/
def reading? (s : Strip) (a : Action) : Option Reading :=
  (s.acted? a).bind fun j => j.reading? s.board

/-- The job that an action ends. -/
def ending? (s : Strip) (a : Action) : Option Ending :=
  (s.acted? a).bind fun j => j.answer?.map fun answer => ⟨j.request, answer⟩

section
variable {t : Ticket} {k : Nat} {j : Job} (place : s.place? t = some k)
  (at_k : s.jobs[k]? = some j)
include place at_k

theorem acted?_proceed : s.acted? (.proceed t) = some j := by
  rw [acted?, place]
  exact at_k

theorem ending?_proceed :
    s.ending? (.proceed t) = j.answer?.map fun answer => ⟨j.request, answer⟩ := by
  rw [ending?, acted?_proceed place at_k]
  rfl

theorem proceed_of_under_way (under_way : j.answer? = none) (e : Editor) :
    s.proceed t e = ({ s with
      board := (j.proceed s.layout e s.board).2
      jobs := s.jobs.set k (j.proceed s.layout e s.board).1 }, []) := by
  simp only [proceed, proceedAt, place, at_k, under_way]

theorem proceed_of_answered {answer : Except ReadFailure Outcome}
    (answered : j.answer? = some answer) (e : Editor) :
    s.proceed t e = ({ s with
      jobs := s.jobs.eraseIdx k
      events := s.events ++ [.ofAnswer j.request.ticket answer] },
      (Note.ofAnswer j.request.ticket answer).map .note) := by
  simp only [proceed, proceedAt, place, at_k, answered, endJob]

end

section
variable {t : Ticket} (absent : s.place? t = none)
include absent

theorem acted?_proceed_of_absent : s.acted? (.proceed t) = none := by
  rw [acted?, absent]
  rfl

theorem ending?_proceed_of_absent : s.ending? (.proceed t) = none := by
  rw [ending?, acted?_proceed_of_absent absent]
  rfl

theorem proceed_of_absent (e : Editor) : s.proceed t e = (s, []) := by
  simp only [proceed, absent]

end

end Strip

theorem Job.reading?_eq_none {j : Job} {answer : Except ReadFailure Outcome}
    (h : j.answer? = some answer) (b : Board) : j.reading? b = none := by
  rcases j with ⟨r, _ | _ | _ | _⟩ <;> first | rfl | cases h

theorem turn_proceed (t : Ticket) :
    Turn e s (.proceed t) (s.reading? (.proceed t)) (s.ending? (.proceed t)) (s.proceed t e).1
      (s.proceed t e).2 := by
  rw [Strip.reading?, Strip.ending?]
  rcases place : s.place? t with _ | k
  · rw [Strip.acted?_proceed_of_absent place, Strip.proceed_of_absent place]
    exact .still _ place (by simp)
  · obtain ⟨j, at_k, -⟩ := exists_of_place? place
    rw [Strip.acted?_proceed place at_k, Option.bind_some, Option.bind_some]
    rcases answer : j.answer? with _ | a
    · rw [Strip.proceed_of_under_way place at_k answer]
      exact .proceeded place at_k answer
    · rw [Strip.proceed_of_answered place at_k answer, Job.reading?_eq_none answer]
      exact .ended place at_k answer

/-- **Every action is one of the turns.** -/
theorem Session.turn_step (s : Session) (sender : s.strip.worker.senderGone = false) (a : Action) :
    Turn s.editor s.strip a (s.strip.reading? a) (s.strip.ending? a) (s.step a).1.strip
      (s.step a).2 := by
  cases a with
  | update ds => exact turn_request rfl
  | refresh => exact turn_request rfl
  | resize h =>
    simp only [step, onStrip, Strip.resize]
    split
    · next same => exact .still _ same (by simp)
    · next other => exact turn_request (by simp [Strip.asks, other])
  | work => exact turn_work sender
  | elapse ms => exact .elapsed ms
  | proceed t => exact turn_proceed t
  | drain => exact .drained
  | click p =>
    refine .still _ trivial ?_
    simp only [step, onStrip, Strip.click]
    split <;> simp [Effect.isPointing]
  | move p =>
    simp only [step, onStrip, Strip.move]
    split
    · exact .still _ trivial (by simp [Effect.isPointing])
    · refine .still _ trivial ?_
      split <;> simp [Effect.isPointing]
  | switchTab tab => exact .still _ trivial (by simp [step])
  | setDocument tab d => exact .still _ trivial (by simp [step])

/-! ## Runs -/

/-- The editor after an action. -/
def Editor.after (e : Editor) : Action → Editor
  | .switchTab tab => e.switchTab tab
  | .setDocument tab d => e.setDocument tab d
  | _ => e

/-- Two editors that show the same. -/
def Editor.Agrees (e e' : Editor) : Prop :=
  e.activeTab = e'.activeTab ∧ ∀ tab, e.document? tab = e'.document? tab

/-- An action that changes nothing an editor shows. -/
def Editor.Keeps (e : Editor) : Action → Prop
  | .switchTab tab => tab = e.activeTab
  | .setDocument tab d => d = e.document? tab
  | _ => True

namespace Editor
variable {e e' : Editor}

instance (e : Editor) : (a : Action) → Decidable (e.Keeps a)
  | .switchTab tab => inferInstanceAs (Decidable (tab = e.activeTab))
  | .setDocument tab d => inferInstanceAs (Decidable (d = e.document? tab))
  | .update _ | .refresh | .resize _ | .work | .elapse _ | .proceed _ | .drain | .click _
  | .move _ => inferInstanceAs (Decidable True)

theorem agrees_switchTab (h : e.Agrees e') : e.Agrees (e'.switchTab e.activeTab) := ⟨rfl, h.2⟩

theorem agrees_setDocument (h : e.Agrees e') (tab : UInt64) :
    e.Agrees (e'.setDocument tab (e.document? tab)) := by
  refine ⟨h.1, fun tab' => ?_⟩
  show e.document? tab' = (List.lookup tab' ((tab, e.document? tab) :: e'.documents)).join
  rw [List.lookup_cons]
  by_cases ht : tab' = tab
  · rw [ht, beq_self_eq_true]
    rfl
  · rw [beq_eq_false_iff_ne.2 ht]
    exact h.2 tab'

theorem agrees_after (h : e.Agrees e') {a : Action} (k : e.Keeps a) : e.Agrees (e'.after a) := by
  cases a with
  | switchTab tab => exact k ▸ agrees_switchTab h
  | setDocument tab d => exact k ▸ agrees_setDocument h tab
  | _ => exact h

theorem compute_congr (h : e.Agrees e') (r : Request) (l : Layout) (tab : UInt64) :
    r.compute l e tab = r.compute l e' tab := by
  rw [Request.compute, Request.compute, read, read, h.2 tab]

end Editor

section
variable {a : Action} {x : Option Reading} {y : Option Ending} {v : Strip} {fx : List Effect}

/-- Where the jobs of a strip come from. -/
theorem Turn.job_cases (turn : Turn e s a x y v fx) {j' : Job} (h : j' ∈ v.jobs) :
    j' ∈ s.jobs ∨ j'.stage = .dispatched ∨ ∃ j ∈ s.jobs, j.answer? = none ∧
      x = j.reading? s.board ∧ j' = (j.proceed s.layout e s.board).1 := by
  cases turn with
  | dispatched | flushed =>
    rcases List.mem_append.1 h with h | h
    · exact .inl h
    · refine .inr (.inl ?_)
      simp only [List.mem_singleton, List.mem_map] at h
      first
      | exact h ▸ rfl
      | obtain ⟨r, -, rfl⟩ := h
        rfl
  | proceeded place at_k under_way =>
    rcases List.mem_or_eq_of_mem_set h with h | h
    · exact .inl h
    · exact .inr (.inr ⟨_, List.mem_of_getElem? at_k, under_way, rfl, h⟩)
  | ended => exact .inl (List.mem_of_mem_eraseIdx h)
  | _ => exact .inl h

theorem Turn.senderGone (turn : Turn e s a x y v fx) :
    v.worker.senderGone = s.worker.senderGone := by
  cases turn <;> rfl

theorem Turn.settings (turn : Turn e s a x y v fx) : v.settings = s.settings := by
  cases turn <;> rfl

end

/-- What a run leaves behind. -/
structure Past where
  actions : List Action := []
  readings : List Reading := []
  endings : List Ending := []
  effects : List Effect := []

/-- One more action. -/
def Past.add (p : Past) (a : Action) (x : Option Reading) (y : Option Ending) (fx : List Effect) :
    Past where
  actions := p.actions ++ [a]
  readings := p.readings ++ x.toList
  endings := p.endings ++ y.toList
  effects := p.effects ++ fx

namespace Past
variable {p : Past} {a : Action} {x : Option Reading} {y : Option Ending} {fx : List Effect}

theorem mem_readings_add {z : Reading} :
    z ∈ (p.add a x y fx).readings ↔ z ∈ p.readings ∨ x = some z := by
  simp [add]

theorem mem_endings_add {z : Ending} :
    z ∈ (p.add a x y fx).endings ↔ z ∈ p.endings ∨ y = some z := by
  simp [add]

end Past

namespace Session

theorem editor_step (s : Session) (a : Action) : (s.step a).1.editor = s.editor.after a := by
  cases a <;> rfl

/-- The readings that a run offers to the board, in the order of the offers. -/
def readings (s : Session) : List Action → List Reading
  | [] => []
  | a :: as => (s.strip.reading? a).toList ++ (s.step a).1.readings as

/-- The jobs that end in a run, in the order of their ends. -/
def endings (s : Session) : List Action → List Ending
  | [] => []
  | a :: as => (s.strip.ending? a).toList ++ (s.step a).1.endings as

def past (s : Session) (as : List Action) : Past :=
  ⟨as, s.readings as, s.endings as, (s.run as).2⟩

theorem run_concat (s : Session) (as : List Action) (a : Action) :
    s.run (as ++ [a]) =
      (((s.run as).1.step a).1, (s.run as).2 ++ ((s.run as).1.step a).2) := by
  rw [run_append]
  simp [andThen, run]

theorem readings_append (s : Session) (as bs : List Action) :
    s.readings (as ++ bs) = s.readings as ++ (s.run as).1.readings bs := by
  induction as generalizing s with
  | nil => rfl
  | cons a as ih =>
    simp only [List.cons_append, readings, run, andThen, ih, List.append_assoc]

theorem endings_append (s : Session) (as bs : List Action) :
    s.endings (as ++ bs) = s.endings as ++ (s.run as).1.endings bs := by
  induction as generalizing s with
  | nil => rfl
  | cons a as ih =>
    simp only [List.cons_append, endings, run, andThen, ih, List.append_assoc]

theorem readings_concat (s : Session) (as : List Action) (a : Action) :
    s.readings (as ++ [a]) = s.readings as ++ ((s.run as).1.strip.reading? a).toList := by
  rw [readings_append, readings, readings, List.append_nil]

theorem endings_concat (s : Session) (as : List Action) (a : Action) :
    s.endings (as ++ [a]) = s.endings as ++ ((s.run as).1.strip.ending? a).toList := by
  rw [endings_append, endings, endings, List.append_nil]

theorem past_concat (s : Session) (as : List Action) (a : Action) :
    s.past (as ++ [a]) = (s.past as).add a ((s.run as).1.strip.reading? a)
      ((s.run as).1.strip.ending? a) ((s.run as).1.step a).2 := by
  simp [past, Past.add, readings_concat, endings_concat, run_concat]

/-- **What a session starts with and every turn keeps holds after every run**, also of what the run
    leaves behind. -/
theorem run_induction {P : Past → Editor → Strip → Prop} {s : Session}
    (sender : s.strip.worker.senderGone = false) (start : P {} s.editor s.strip)
    (turn : ∀ {p e u a x y v fx}, P p e u → Turn e u a x y v fx →
      P (p.add a x y fx) (e.after a) v) (as : List Action) :
    P (s.past as) (s.run as).1.editor (s.run as).1.strip := by
  have key : ∀ as : List Action, (s.run as).1.strip.worker.senderGone = false ∧
      P (s.past as) (s.run as).1.editor (s.run as).1.strip := by
    intro as
    induction as using List.reverseRecOn with
    | nil => exact ⟨sender, start⟩
    | append_singleton as a ih =>
      have t := (s.run as).1.turn_step ih.1 a
      rw [past_concat, run_concat, editor_step]
      exact ⟨t.senderGone.trans ih.1, turn ih.2 t⟩
  exact (key as).2

section
variable (e : Editor) (σ : Settings) (h : UInt32) (available : Bool) (as : List Action)

theorem settings_run :
    ((start e σ h available).1.run as).1.strip.settings = σ :=
  run_induction (P := fun _ _ u => u.settings = σ) rfl rfl
    (fun ih turn => turn.settings.trans ih) as

theorem senderGone_run :
    ((start e σ h available).1.run as).1.strip.worker.senderGone = false :=
  run_induction (P := fun _ _ u => u.worker.senderGone = false) rfl rfl
    (fun ih turn => turn.senderGone.trans ih) as

/-- An action after a run of a new session is a turn. -/
theorem turn_run (a : Action) :
    let s := ((start e σ h available).1.run as).1
    Turn s.editor s.strip a (s.strip.reading? a) (s.strip.ending? a) (s.step a).1.strip
      (s.step a).2 :=
  turn_step _ (senderGone_run e σ h available as) a

end

end Session

end MarkerStrip
