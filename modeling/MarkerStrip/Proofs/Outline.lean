/-
  What a strip is going to show.

  The requests on their way stand in one line: those that run as jobs, the one
  that is kept back, and those that wait in the mailbox.  Of all that they
  will put on show only the last one stays, so that what a strip is going to
  show can be said before anything is computed.

  * `Strip.outlook` is what a strip is going to show, given the requests on
    their way, and `Strip.outline` all that does not depend on the window;
  * `Strip.Onward`: the work behind the scenes changes neither, but for the
    requests that leave the mailbox;
  * `Strip.outline_request`: a request changes the outline by the outline
    alone;
  * `Strip.eq_of_outline`: at rest the outline is all there is to say.
-/
import MarkerStrip.Proofs.Order
import MarkerStrip.Rehearsal

namespace MarkerStrip

/-! ## The requests on their way -/

/-- The ticket that a note says was refused, and why. -/
def Effect.refusal? : Effect → Option (Ticket × Refusal)
  | .note (.requestRefused t why) => some (t, why)
  | _ => none

namespace Strip

/-- The requests on their way, in the order in which they were made. -/
def line (s : Strip) : List Request :=
  s.jobs.map Job.request ++ s.worker.memory.toList ++ s.worker.mailbox.waiting

/-- The markers that a strip beside the editor `e` is going to show, and their ticket: those of the
    last request on its way, if the document can be read. -/
def outlook (s : Strip) (e : Editor) : Ticket × List Marker :=
  match e.read e.activeTab, s.line.getLast? with
  | .ok text, some r => (r.ticket, r.layOut s.layout e.activeTab text)
  | _, _ => (s.board.published, s.board.current)

/-- A strip whose jobs have not started, and whose requests are all later than what is on show. -/
structure Queued (s : Strip) : Prop where
  fresh : ∀ j ∈ s.jobs, j.stage = .dispatched
  sorted : List.Pairwise (· < ·)
    (s.board.published :: (s.line.map Request.ticket ++ [s.board.drawn + 1]))
  timed : s.Timed
  /-- The deadline is no further off than the window is long. -/
  soon : ∀ d, s.worker.deadline = some d → d ≤ s.worker.clock + s.settings.debounce.toNat
  sender : s.worker.senderGone = false
  awake : s.Working ∨ s.Dormant ∧ s.worker.deadline = none

end Strip

/-- What strips with different windows can have in common. -/
structure Outline where
  settings : Settings
  height : UInt32
  latest : List Diagnostic
  drawn : Ticket
  mailbox : Mailbox Request
  clock : Nat
  hovering : Bool
  outlook : Ticket × List Marker

/-- The mailbox is emptied, and what was in it computed. -/
def Outline.emptied (o : Outline) : Outline :=
  { o with mailbox := { o.mailbox with waiting := [] } }

/-- All of a strip that does not depend on the window, beside the editor `e`. -/
def Strip.outline (s : Strip) (e : Editor) : Outline where
  settings := { s.settings with debounce := 0 }
  height := s.height
  latest := s.latest
  drawn := s.board.drawn
  mailbox := s.worker.mailbox
  clock := s.worker.clock
  hovering := s.hovering
  outlook := s.outlook e

/-! ## Behind the scenes -/

/-- What becomes of a strip while nothing is asked of it: requests leave the mailbox. -/
structure Strip.Onward (e : Editor) (s v : Strip) : Prop where
  outline : (v.outline e).emptied = (s.outline e).emptied
  settings : v.settings = s.settings
  queued : v.Queued

variable {e : Editor} {s v : Strip} {fx : List Effect}

/-- A round of the worker takes no request out of the line but one that is followed by another. -/
theorem Turn.line_of_work (turn : Turn e s .work none none v fx) (queued : s.Queued) :
    v.line.Sublist s.line ∧ v.line.getLast? = s.line.getLast? := by
  have of_eq : v.line = s.line → v.line.Sublist s.line ∧ v.line.getLast? = s.line.getLast? := by
    intro same
    rw [same]
    exact ⟨.refl _, rfl⟩
  cases turn with
  | accepted asked | refused why asked => cases asked
  | dispatched window alive first =>
    apply of_eq
    simp [Strip.line, Worker.next, first, queued.timed.window window]
  | kept window alive first free =>
    apply of_eq
    simp [Strip.line, Worker.next, first, free]
  | @replaced r k rest window alive first held later =>
    have before : s.line = s.jobs.map Job.request ++ (k :: r :: rest) := by
      simp [Strip.line, first, held]
    have after (deadline : Option Nat) :
        Strip.line { s with worker := s.worker.next rest (some r) deadline } =
          s.jobs.map Job.request ++ (r :: rest) := by
      simp [Strip.line, Worker.next]
    rw [before, after]
    refine ⟨(List.sublist_cons_self k (r :: rest)).append_left _, ?_⟩
    rw [List.getLast?_append_cons, List.getLast?_append_cons, List.getLast?_cons_cons]
  | @outrun r k rest window alive first held early =>
    -- the line is in the order of its tickets, so nothing early comes behind the one kept back
    have sorted := queued.sorted
    simp only [Strip.line, first, held, Option.toList_some, List.map_append, List.map_cons,
      List.append_assoc, List.cons_append, List.nil_append] at sorted
    have := ((List.pairwise_append.1 (List.pairwise_cons.1 sorted).2).2.1)
    exact absurd ((List.pairwise_cons.1 this).1 r.ticket (List.mem_cons_self ..))
      (Nat.not_lt.2 early)
  | flushed alive empty due =>
    apply of_eq
    simp [Strip.line, Worker.next, empty, Function.comp_def]
  | still => exact of_eq rfl

/-- What a strip is going to show depends on the requests on their way by the last one. -/
theorem Strip.outlook_congr (settings : v.settings = s.settings)
    (board : v.board = s.board) (last : v.line.getLast? = s.line.getLast?) :
    v.outlook e = s.outlook e := by
  have layout : v.layout = s.layout := by rw [Strip.layout, Strip.layout, settings]
  rw [Strip.outlook, Strip.outlook, board, last, layout]

theorem Turn.worker_of_work (turn : Turn e s .work none none v fx) :
    v.worker.clock = s.worker.clock ∧ v.worker.mailbox.capacity = s.worker.mailbox.capacity ∧
      v.worker.mailbox.receiver = s.worker.mailbox.receiver := by
  cases turn with
  | accepted asked | refused why asked => cases asked
  | _ => exact ⟨rfl, rfl, rfl⟩

/-- Nothing is refused but what is asked for. -/
theorem Turn.unrefused {a : Action} {x : Option Reading} {y : Option Ending}
    (turn : Turn e s a x y v fx) (quiet : s.asks a = none) :
    fx.filterMap Effect.refusal? = [] := by
  refine List.filterMap_eq_nil_iff.2 fun z hz => ?_
  unfold Effect.refusal?
  split
  · obtain ⟨-, next, drawn⟩ := turn.refusal hz
    rw [turn.drawn_eq, quiet] at drawn
    exact absurd (drawn.trans next) (Nat.ne_of_lt (Nat.lt_succ_self _))
  · rfl

theorem Strip.asks_of_isBehind {a : Action} (behind : a.isBehind = true) : s.asks a = none := by
  cases a <;> first | rfl | cases behind

theorem Editor.after_of_isBehind (e : Editor) {a : Action} (behind : a.isBehind = true) :
    e.after a = e := by
  cases a <;> first | rfl | cases behind

theorem Turn.queued_of_work (turn : Turn e s .work none none v fx) (queued : s.Queued) :
    v.Queued := by
  obtain ⟨fewer, -⟩ := turn.line_of_work queued
  obtain ⟨-, -, board⟩ := turn.of_quiet rfl
  have board : v.board = s.board := board
  refine ⟨?_, ?_, turn.timed queued.timed, ?_, turn.senderGone.trans queued.sender, ?_⟩
  · intro j hj
    cases turn with
    | accepted asked | refused why asked => cases asked
    | dispatched | flushed =>
      rcases List.mem_append.1 hj with old | new
      · exact queued.fresh j old
      · simp only [List.mem_singleton, List.mem_map] at new
        grind
    | _ => exact queued.fresh j hj
  · rw [board]
    have line : (v.line.map Request.ticket ++ [s.board.drawn + 1]).Sublist
        (s.line.map Request.ticket ++ [s.board.drawn + 1]) := (fewer.map _).append_right _
    exact queued.sorted.sublist (line.cons_cons s.board.published)
  · intro d hd
    cases turn with
    | accepted asked | refused why asked => cases asked
    | dispatched | flushed => cases hd
    | kept | replaced | outrun => exact Nat.le_of_eq (Option.some.inj hd).symm
    | still => exact queued.soon d hd
  · refine queued.awake.imp turn.working fun ⟨dormant, deadline⟩ => ?_
    refine ⟨(turn.dormant dormant).1, ?_⟩
    cases turn with
    | accepted asked | refused why asked => cases asked
    | still => exact deadline
    | _ => simp_all [dormant.alive]

theorem Strip.hovering_work (s : Strip) : s.work.1.hovering = s.hovering := by
  unfold work
  split
  · rfl
  · rw [carryOutAll_eq]

theorem Strip.Queued.onward_work (queued : s.Queued) (e : Editor) : s.Onward e s.work.1 := by
  have turn := turn_work (e := e) queued.sender
  obtain ⟨-, last⟩ := turn.line_of_work queued
  obtain ⟨height, latest, board⟩ := turn.of_quiet rfl
  obtain ⟨clock, capacity, receiver⟩ := turn.worker_of_work
  have outlook := Strip.outlook_congr (e := e) turn.settings board last
  refine ⟨?_, turn.settings, turn.queued_of_work queued⟩
  have drawn : s.work.1.board.drawn = s.board.drawn := congrArg Board.drawn board
  simp only [Strip.outline, Outline.emptied, turn.settings, height, latest, drawn, clock, capacity,
    receiver, outlook, s.hovering_work]

/-! ### Computations -/

theorem Session.run_first {s : Session} {r : Request} {js : List Job}
    (hj : s.strip.jobs = { request := r } :: js) :
    let result := s.strip.board.absorb r.ticket
      (r.compute s.strip.layout s.editor s.editor.activeTab)
    (s.run (Rehearsal.jobActions false r.ticket)).1 = { s with strip := { s.strip with
      jobs := js, board := result.2
      events := s.strip.events ++ [.ofAnswer r.ticket result.1] } } := by
  simp [Rehearsal.jobActions, Rehearsal.readActions, run, andThen, step, onStrip, Strip.proceed,
    Strip.place?, hj, List.findIdx?_cons, Strip.proceedAt, Job.answer?, Job.proceed, Strip.endJob,
    Strip.layout]

/-- What a strip has on show, and what its requests on their way come to, when the first of them
    has been computed. -/
theorem Strip.Queued.absorb_first (queued : s.Queued) {r : Request} {rest : List Request}
    (first : s.line = r :: rest) {text : String} (readable : e.read e.activeTab = .ok text) :
    s.board.absorb r.ticket (r.compute s.layout e e.activeTab) =
      (.ok (.applied (moved s.board.current (r.layOut s.layout e.activeTab text))),
        { s.board with
          published := r.ticket, current := r.layOut s.layout e.activeTab text
          previous := s.board.current }) := by
  have later : s.board.published < r.ticket := by
    have sorted := (List.pairwise_cons.1 queued.sorted).1
    refine sorted r.ticket (List.mem_append_left _ ?_)
    rw [first]
    exact List.mem_cons_self ..
  rw [Request.compute, readable]
  exact Board.absorb_later later _

theorem Strip.Timed.congr (timed : s.Timed) (settings : v.settings = s.settings)
    (worker : v.worker = s.worker) : v.Timed := by
  constructor
  · rw [settings, worker]
    exact timed.window
  · rw [worker]
    exact timed.deadline

/-- What a strip shows and remembers does not matter, but for the order of the tickets. -/
theorem Strip.Queued.congr (queued : s.Queued) (settings : v.settings = s.settings)
    (worker : v.worker = s.worker) (jobs : v.jobs = s.jobs)
    (sorted : List.Pairwise (· < ·)
      (v.board.published :: (v.line.map Request.ticket ++ [v.board.drawn + 1]))) : v.Queued where
  fresh := jobs ▸ queued.fresh
  sorted := sorted
  timed := queued.timed.congr settings worker
  soon := by
    rw [settings, worker]
    exact queued.soon
  sender := worker ▸ queued.sender
  awake := queued.awake.imp (fun w => ⟨worker ▸ w.alive, worker ▸ w.capacity⟩) fun ⟨d, deadline⟩ =>
    ⟨⟨worker ▸ d.alive, worker ▸ d.waiting, worker ▸ d.memory, jobs.trans d.jobs⟩,
      worker ▸ deadline⟩

/-- A computation goes unnoticed, but for what it puts on show. -/
theorem Session.onward_first {s : Session} (queued : s.strip.Queued) {r : Request} {js : List Job}
    (hj : s.strip.jobs = { request := r } :: js) :
    s.strip.Onward s.editor (s.run (Rehearsal.jobActions false r.ticket)).1.strip := by
  rw [run_first hj]
  have first : s.strip.line = r ::
      (js.map Job.request ++ s.strip.worker.memory.toList ++ s.strip.worker.mailbox.waiting) := by
    simp [Strip.line, hj]
  have fresh : ∀ j ∈ js, j.stage = .dispatched := fun j h =>
    queued.fresh j (hj ▸ List.mem_cons_of_mem _ h)
  have sorted := queued.sorted
  rw [first, List.map_cons, List.cons_append] at sorted
  have timed (u : Strip) := queued.timed.congr (v := u)
  have working : s.strip.Working := queued.awake.resolve_right fun dormant =>
    absurd dormant.1.jobs (by simp [hj])
  rcases readable : s.editor.read s.editor.activeTab with f | text
  · have failed : r.compute s.strip.layout s.editor s.editor.activeTab = .error f := by
      rw [Request.compute, readable]
      rfl
    simp only [failed, Board.absorb]
    refine ⟨?_, rfl, fresh, ?_, timed _ rfl rfl, queued.soon, queued.sender,
      .inl ⟨working.alive, working.capacity⟩⟩
    · simp only [Strip.outline, Outline.emptied, Strip.outlook, readable]
    · exact sorted.sublist ((List.sublist_cons_self ..).cons_cons _)
  · simp only [queued.absorb_first first readable]
    refine ⟨?_, rfl, fresh, (List.pairwise_cons.1 sorted).2, timed _ rfl rfl, queued.soon,
      queued.sender, .inl ⟨working.alive, working.capacity⟩⟩
    simp only [Strip.outline, Outline.emptied, Strip.outlook, readable, first]
    simp only [Strip.line]
    rcases js.map Job.request ++ s.strip.worker.memory.toList ++
        s.strip.worker.mailbox.waiting with _ | ⟨r', rest⟩
    · rfl
    · rw [List.getLast?_cons_cons]
      rfl

/-! ### Settling -/

theorem Strip.Queued.onward_refl (queued : s.Queued) (e : Editor) : s.Onward e s :=
  ⟨rfl, rfl, queued⟩

theorem Strip.Onward.trans {u : Strip} (h : s.Onward e v) (k : v.Onward e u) : s.Onward e u :=
  ⟨k.outline.trans h.outline, k.settings.trans h.settings, k.queued⟩

namespace Session

theorem onward_rounds {s : Session} (queued : s.strip.Queued) (n : Nat) :
    s.strip.Onward s.editor (s.run (List.replicate n .work)).1.strip := by
  induction n generalizing s with
  | zero => exact queued.onward_refl _
  | succ n ih =>
    have round := queued.onward_work s.editor
    exact round.trans (ih (s := (s.step .work).1) round.queued)

theorem worker_rounds (s : Session) (sender : s.strip.worker.senderGone = false) (n : Nat) :
    (s.run (List.replicate n .work)).1.strip.worker =
      (Worker.run s.strip.gathering n s.strip.worker).1 := by
  induction n generalizing s with
  | zero => rfl
  | succ n ih =>
    have turn := s.turn_step sender .work
    have gathering : (s.step .work).1.strip.gathering = s.strip.gathering := by
      rw [Strip.gathering, Strip.gathering, turn.settings]
    have rest := ih (s.step .work).1 (turn.senderGone.trans sender)
    rw [gathering] at rest
    rw [List.replicate_succ, run, andThen]
    simp only [rest, Worker.run]
    rcases hs : s.strip.worker.step s.strip.gathering with _ | ⟨w, activity, vs⟩
    · have idle : (s.step .work).1.strip.worker = s.strip.worker := by
        simp only [step, onStrip, Strip.work, hs]
      rw [idle]
      cases n with
      | zero => rfl
      | succ n => simp only [Worker.run, hs]
    · have round : (s.step .work).1.strip.worker = w := Strip.worker_work hs
      rw [round]

/-- Working and computing change nothing in the editor, and are never refused. -/
theorem run_of_behind (s : Session) (sender : s.strip.worker.senderGone = false)
    {as : List Action} (behind : ∀ a ∈ as, a.isBehind = true) :
    (s.run as).1.editor = s.editor ∧ (s.run as).2.filterMap Effect.refusal? = [] := by
  induction as generalizing s with
  | nil => exact ⟨rfl, rfl⟩
  | cons a as ih =>
    obtain ⟨first, others⟩ := List.forall_mem_cons.1 behind
    have turn := s.turn_step sender a
    obtain ⟨editor, unrefused⟩ := ih (s.step a).1 (turn.senderGone.trans sender) others
    rw [run, andThen, List.filterMap_append, turn.unrefused (Strip.asks_of_isBehind first)]
    exact ⟨editor.trans ((s.editor_step a).trans (s.editor.after_of_isBehind first)), unrefused⟩

end Session

theorem Strip.Queued.waiting_of_idle (queued : s.Queued)
    (idle : s.worker.step s.gathering = none) : s.worker.mailbox.waiting = [] :=
  queued.awake.elim (fun working => (working.of_idle idle queued.sender).1) fun h => h.1.waiting

theorem Strip.Onward.emptied (onward : s.Onward e v) (empty : v.worker.mailbox.waiting = []) :
    v.outline e = (s.outline e).emptied := by
  rw [← onward.outline]
  simp only [Strip.outline, Outline.emptied, ← empty]

/-! ## Requests -/

namespace Outline

/-- A request, as far as outlines tell: what it will come to takes the place of what was to be
    shown, unless the document cannot be read. -/
def request (o : Outline) (e : Editor) : Outline × List (Ticket × Refusal) :=
  let r : Request := ⟨o.drawn + 1, o.latest, o.height⟩
  match o.mailbox.offer r with
  | .ok mailbox =>
    let outlook :=
      match e.read e.activeTab with
      | .ok text =>
        (r.ticket, r.layOut ⟨o.settings.metrics, o.settings.lineOffset⟩ e.activeTab text)
      | .error _ => o.outlook
    ({ o with drawn := r.ticket, mailbox, outlook }, [])
  | .error why => ({ o with drawn := r.ticket }, [(r.ticket, why)])

def elapse (o : Outline) (ms : Nat) : Outline := { o with clock := o.clock + ms }

end Outline

theorem Strip.Queued.sorted_succ {p d : Ticket} {ts : List Ticket}
    (sorted : List.Pairwise (· < ·) (p :: (ts ++ [d]))) :
    List.Pairwise (· < ·) (p :: (ts ++ [d] ++ [d + 1])) := by
  rw [← List.cons_append] at sorted ⊢
  rw [← List.cons_append, List.pairwise_append]
  refine ⟨sorted, List.pairwise_singleton .., fun t ht t' ht' => ?_⟩
  obtain rfl := List.mem_singleton.1 ht'
  rcases List.mem_append.1 ht with ht | ht
  · exact Nat.lt_succ_of_lt ((List.pairwise_append.1 sorted).2.2 t ht d (List.mem_singleton.2 rfl))
  · exact List.mem_singleton.1 ht ▸ Nat.lt_succ_self d

section
variable {why : Refusal} {m : Mailbox Request}

theorem Strip.request_of_error
    (offered : s.worker.mailbox.offer ⟨s.board.drawn + 1, s.latest, s.height⟩ = .error why) :
    s.request =
      ({ s with board := s.board.draw.2 }, [.note (.requestRefused (s.board.drawn + 1) why)]) := by
  simp only [request, Board.draw, Worker.send, offered]
  rfl

theorem Strip.request_of_ok
    (offered : s.worker.mailbox.offer ⟨s.board.drawn + 1, s.latest, s.height⟩ = .ok m) :
    s.request = ({ s with
      board := s.board.draw.2
      worker := s.worker.enqueue ⟨s.board.drawn + 1, s.latest, s.height⟩ }, []) := by
  obtain ⟨-, -, rfl⟩ := Mailbox.offer_eq_ok_iff.1 offered
  simp only [request, Board.draw, Worker.send, offered]
  rfl

end

theorem Strip.line_enqueue (s : Strip) (b : Board) (r : Request) :
    Strip.line { s with board := b, worker := s.worker.enqueue r } = s.line ++ [r] := by
  simp only [line, Worker.enqueue, List.append_assoc]

theorem Strip.Queued.request (queued : s.Queued) : s.request.1.Queued := by
  have sorted := sorted_succ queued.sorted
  rcases offered : s.worker.mailbox.offer ⟨s.board.drawn + 1, s.latest, s.height⟩ with why | m
  · rw [Strip.request_of_error offered]
    have shorter := List.sublist_append_left (s.line.map Request.ticket) [s.board.drawn + 1]
    exact queued.congr rfl rfl rfl (sorted.sublist ((shorter.append_right _).cons_cons _))
  · rw [Strip.request_of_ok offered]
    obtain ⟨listening, room, -⟩ := Mailbox.offer_eq_ok_iff.1 offered
    refine ⟨queued.fresh, ?_, ⟨queued.timed.window, queued.timed.deadline⟩, queued.soon,
      queued.sender, .inl ⟨beq_iff_eq.2 listening, Nat.lt_of_le_of_lt (Nat.zero_le _) room⟩⟩
    rw [Strip.line_enqueue, List.map_append]
    exact sorted

theorem Strip.Queued.elapse (queued : s.Queued) (ms : Nat) : (s.elapse ms).Queued := by
  refine ⟨queued.fresh, queued.sorted, ⟨queued.timed.window, queued.timed.deadline⟩, ?_,
    queued.sender, ?_⟩
  · intro d hd
    have soon := queued.soon d hd
    show d ≤ s.worker.clock + ms + s.settings.debounce.toNat
    omega
  · exact queued.awake.imp (fun w => ⟨w.alive, w.capacity⟩) fun ⟨d, deadline⟩ =>
      ⟨⟨d.alive, d.waiting, d.memory, d.jobs⟩, deadline⟩

/-- **What a request does to the outline depends on nothing but the outline.** -/
theorem Strip.outline_request (s : Strip) (e : Editor) :
    s.request.1.outline e = ((s.outline e).request e).1 ∧
      s.request.2.filterMap Effect.refusal? = ((s.outline e).request e).2 := by
  rcases offered : s.worker.mailbox.offer ⟨s.board.drawn + 1, s.latest, s.height⟩ with why | m
  · rw [request_of_error offered]
    simp only [Outline.request, outline, offered]
    exact ⟨rfl, rfl⟩
  · rw [request_of_ok offered]
    obtain ⟨-, -, rfl⟩ := Mailbox.offer_eq_ok_iff.1 offered
    simp only [Outline.request, outline, offered]
    refine ⟨?_, rfl⟩
    rcases readable : e.read e.activeTab with f | text
    · simp only [outlook, readable]
      rfl
    · simp only [outlook, readable, line_enqueue, List.getLast?_concat]
      rfl

/-! ## At rest -/

theorem Strip.Queued.free_of_atRest (queued : s.Queued) (rest : s.AtRest) :
    s.worker.memory = none ∧ s.worker.deadline = none ∧ s.line = [] := by
  have waiting := queued.waiting_of_idle rest.idle
  have free : s.worker.memory = none ∧ s.worker.deadline = none := by
    rcases queued.awake with working | ⟨dormant, deadline⟩
    · have deadline := rest.deadline working queued.sender
      exact ⟨queued.timed.deadline deadline, deadline⟩
    · exact ⟨dormant.memory, deadline⟩
  refine ⟨free.1, free.2, ?_⟩
  rw [Strip.line, rest.jobs, free.1, waiting]
  rfl

theorem Strip.outlook_of_nil (nothing : s.line = []) :
    s.outlook e = (s.board.published, s.board.current) := by
  rw [outlook, nothing]
  rcases e.read e.activeTab with f | text <;> rfl

/-- **A strip at rest is what its outline says**, but for the window, for what was on show before
    and for what the editor has yet to be told. -/
theorem Strip.eq_of_outline (same : v.outline e = s.outline e) (hs : s.Queued) (hv : v.Queued)
    (rest : s.AtRest) (rest' : v.AtRest) :
    v = { s with
      settings := { s.settings with debounce := v.settings.debounce }
      board := { s.board with previous := v.board.previous }
      events := v.events } := by
  obtain ⟨memory, deadline, line⟩ := hs.free_of_atRest rest
  obtain ⟨memory', deadline', line'⟩ := hv.free_of_atRest rest'
  have sender := hs.sender.trans hv.sender.symm
  have jobs := rest.jobs.trans rest'.jobs.symm
  simp only [outline, outlook_of_nil line, outlook_of_nil line', Outline.mk.injEq, Prod.mk.injEq]
    at same
  obtain ⟨settings, height, latest, drawn, mailbox, clock, hovering, published, current⟩ := same
  have settings : v.settings = { s.settings with debounce := v.settings.debounce } :=
    congrArg (fun σ : Settings => { σ with debounce := v.settings.debounce }) settings
  rcases s with ⟨σ, _, ⟨⟩, _, ⟨⟩, _⟩
  rcases v with ⟨σ', _, ⟨⟩, _, ⟨⟩, _⟩
  simp only at *
  subst height latest drawn mailbox clock hovering published current sender jobs
  rw [memory, memory', deadline, deadline', ← settings]

end MarkerStrip
