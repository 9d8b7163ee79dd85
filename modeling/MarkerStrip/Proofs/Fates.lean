/-
  What becomes of requests.

  A request is refused when it is made, waits for the worker, is kept back by
  it, is set aside for a later one, runs as a job, or has ended with an event.
  No action loses a ticket or puts it into two places.

  * `Strip.withFate` gives the tickets of each fate, from the state and the
    effects so far;
  * `Session.accounts_perm`: together these are the tickets drawn, each once;
  * `Session.allEvents_eq`: the events, handed over or not, are those of the jobs that
    ended, in the order of their ends.
-/
import Mathlib.Data.List.Nodup
import Mathlib.Data.List.Pairwise
import MarkerStrip.Proofs.Turn

namespace MarkerStrip

/-! ## Fates -/

/-- What can have become of a request. -/
inductive Fate where
  | refused
  | waiting
  /-- Kept back until its window closes. -/
  | kept
  /-- Set aside for a later request. -/
  | setAside
  | running
  /-- Ended with an event. -/
  | ended
deriving Repr, DecidableEq

namespace Effect

/-- The ticket that a note says was refused. -/
@[simp]
def refused? : Effect → Option Ticket
  | .note (.requestRefused t _) => some t
  | _ => none

@[simp]
def setAside? : Effect → Option Ticket
  | .setAside t => some t
  | _ => none

@[simp]
def delivered? : Effect → Option Event
  | .delivered e => some e
  | _ => none

end Effect

/-- The events that were handed over or still wait for it, the oldest first. -/
def Strip.allEvents (s : Strip) (fx : List Effect) : List Event :=
  fx.filterMap Effect.delivered? ++ s.events

/-- The tickets of a fate in a strip after the effects `fx`. -/
def Strip.withFate (s : Strip) (fx : List Effect) : Fate → List Ticket
  | .refused => fx.filterMap Effect.refused?
  | .waiting => s.worker.mailbox.waiting.map Request.ticket
  | .kept => s.worker.memory.toList.map Request.ticket
  | .setAside => fx.filterMap Effect.setAside?
  | .running => (s.jobs.map Job.request).map Request.ticket
  | .ended => (s.allEvents fx).map Event.ticket

/-- The tickets of all fates. -/
def Strip.accounts (s : Strip) (fx : List Effect) : List Ticket :=
  [.refused, .waiting, .kept, .setAside, .running, .ended].flatMap (s.withFate fx)

/-! ## No ticket is lost or doubled -/

theorem count_accounts (s : Strip) (fx : List Effect) (t : Ticket) :
    (s.accounts fx).count t =
      (fx.filterMap Effect.refused?).count t +
      (s.worker.mailbox.waiting.map Request.ticket).count t +
      (s.worker.memory.toList.map Request.ticket).count t +
      (fx.filterMap Effect.setAside?).count t +
      ((s.jobs.map Job.request).map Request.ticket).count t +
      ((fx.filterMap Effect.delivered?).map Event.ticket).count t +
      (s.events.map Event.ticket).count t := by
  simp only [Strip.accounts, Strip.withFate, Strip.allEvents, List.flatMap_cons, List.flatMap_nil,
    List.append_nil, List.map_append, List.count_append]
  omega

variable {e : Editor} {s v : Strip} {a : Action} {x : Option Reading} {y : Option Ending}
  {fx gx : List Effect}

theorem one_fate {s : Strip} {fx : List Effect} {t : Ticket} (nodup : (s.accounts fx).Nodup)
    (ht : t ∈ s.accounts fx) :
    ∃ f, (s.withFate fx f).count t = 1 ∧ ∀ g, g ≠ f → t ∉ s.withFate fx g := by
  obtain ⟨each, apart⟩ := List.nodup_flatMap.1 nodup
  have all (f : Fate) : f ∈ [Fate.refused, .waiting, .kept, .setAside, .running, .ended] := by
    cases f <;> simp
  obtain ⟨f, -, hf⟩ := List.mem_flatMap.1 ht
  refine ⟨f, List.count_eq_one_of_mem (each f (all f)) hf, fun g hne hg => ?_⟩
  have : Std.Symm (Function.onFun List.Disjoint (s.withFate fx)) :=
    ⟨fun _ _ h _ h₁ h₂ => h h₂ h₁⟩
  exact apart.forall (all g) (all f) hne hg hf

theorem mem_accounts_of_mem {s : Strip} {fx : List Effect} {f : Fate} {t : Ticket}
    (h : t ∈ s.withFate fx f) : t ∈ s.accounts fx :=
  List.mem_flatMap.2 ⟨f, by cases f <;> simp, h⟩

theorem Effect.of_isPointing {x : Effect} (h : x.isPointing = true) :
    x.refused? = none ∧ x.setAside? = none ∧ x.delivered? = none := by
  cases x <;> first | exact ⟨rfl, rfl, rfl⟩ | cases h

theorem filterMap_pointing (h : ∀ x ∈ gx, x.isPointing = true) :
    gx.filterMap Effect.refused? = [] ∧ gx.filterMap Effect.setAside? = [] ∧
      gx.filterMap Effect.delivered? = [] :=
  ⟨List.filterMap_eq_nil_iff.2 fun x hx => (Effect.of_isPointing (h x hx)).1,
    List.filterMap_eq_nil_iff.2 fun x hx => (Effect.of_isPointing (h x hx)).2.1,
    List.filterMap_eq_nil_iff.2 fun x hx => (Effect.of_isPointing (h x hx)).2.2⟩

theorem filterMap_ofAnswer (t : Ticket) (r : Except ReadFailure Outcome) :
    ((Note.ofAnswer t r).map Effect.note).filterMap Effect.refused? = [] ∧
      ((Note.ofAnswer t r).map Effect.note).filterMap Effect.setAside? = [] ∧
      ((Note.ofAnswer t r).map Effect.note).filterMap Effect.delivered? = [] := by
  rcases r with (_ | _) | (_ | _) <;> exact ⟨rfl, rfl, rfl⟩

theorem filterMap_drained (ys : List Event) (cs : List Call) :
    (ys.map Effect.delivered ++ cs.map Effect.call).filterMap Effect.refused? = [] ∧
      (ys.map Effect.delivered ++ cs.map Effect.call).filterMap Effect.setAside? = [] ∧
      (ys.map Effect.delivered ++ cs.map Effect.call).filterMap Effect.delivered? = ys := by
  simp [List.filterMap_map, Function.comp_def]

theorem count_tickets_eraseIdx {js : List Job} {k : Nat} {j : Job} (at_k : js[k]? = some j)
    (t : Ticket) :
    ((js.map Job.request).map Request.ticket).count t =
      (((js.eraseIdx k).map Job.request).map Request.ticket).count t +
      [j.request.ticket].count t := by
  have hp := (((perm_eraseIdx at_k).map Job.request).map Request.ticket).count_eq t
  simp only [List.map_cons, List.count_cons] at hp
  simp only [← hp, List.count_singleton]

/-- A turn moves tickets from one place to the next, and adds the one it draws. -/
theorem Turn.accounts_perm (turn : Turn e s a x y v gx)
    (h : (s.accounts fx).Perm (List.range' 1 s.board.drawn)) :
    (v.accounts (fx ++ gx)).Perm (List.range' 1 v.board.drawn) := by
  rw [List.perm_iff_count] at h ⊢
  intro t
  -- what a turn takes from one summand of the count it adds to another
  have ht := h t
  rw [count_accounts] at ht ⊢
  simp only [List.filterMap_append, List.count_append, List.map_append]
  cases turn with
  | accepted asked room =>
    simp only [Board.draw, Worker.enqueue, List.range'_1_concat, List.map_append, List.map_cons,
      List.map_nil, List.count_append, List.filterMap_nil, List.count_nil, Nat.add_comm] at ht ⊢
    omega
  | refused why asked full =>
    simp only [Board.draw, List.range'_1_concat, List.count_append, List.filterMap_cons,
      Effect.refused?, Effect.setAside?, Effect.delivered?, List.filterMap_nil, List.map_nil,
      List.count_nil, Nat.add_comm] at ht ⊢
    omega
  | dispatched window alive first =>
    simp only [first, Worker.next, List.map_append, List.map_cons, List.map_nil, List.count_append,
      List.count_cons, List.filterMap_nil, List.count_nil] at ht ⊢
    omega
  | kept window alive first free =>
    simp only [first, free, Worker.next, Option.toList_none, Option.toList_some, List.map_cons,
      List.map_nil, List.count_cons, List.filterMap_nil, List.count_nil] at ht ⊢
    omega
  | replaced window alive first held later | outrun window alive first held early =>
    simp only [first, held, Worker.next, Option.toList_some, List.map_cons, List.map_nil,
      List.count_cons, List.filterMap_cons, Effect.refused?, Effect.setAside?, Effect.delivered?,
      List.filterMap_nil, List.count_nil] at ht ⊢
    omega
  | flushed alive empty due =>
    simp only [empty, Worker.next, Option.toList_none, List.map_append, Job.requests_new,
      List.map_nil, List.count_append, List.filterMap_nil, List.count_nil] at ht ⊢
    omega
  | proceeded place at_k under_way =>
    rw [requests_set at_k (Job.request_proceed ..), Job.drawn_proceed]
    exact ht
  | @ended t k j answer place at_k answered =>
    obtain ⟨refused, setAside, delivered⟩ := filterMap_ofAnswer j.request.ticket answer
    rw [count_tickets_eraseIdx at_k] at ht
    simp only [refused, setAside, delivered, List.map_append, List.map_cons, List.map_nil,
      List.count_append, List.count_nil, Event.ticket_ofAnswer] at ht ⊢
    omega
  | drained =>
    obtain ⟨refused, setAside, delivered⟩ :=
      filterMap_drained s.events (s.events.flatMap Event.repaints)
    simp only [refused, setAside, delivered, List.map_nil, List.count_nil] at ht ⊢
    omega
  | elapsed => exact ht
  | still _ idle pointing =>
    obtain ⟨refused, setAside, delivered⟩ := filterMap_pointing pointing
    rw [refused, setAside, delivered]
    exact ht

/-! ## What single turns show -/

theorem Turn.drawn_eq (turn : Turn e s a x y v gx) :
    v.board.drawn = s.board.drawn + (s.asks a).isSome.toNat := by
  cases turn with
  | accepted asked | refused _ asked => simp [asked, Board.draw]
  | proceeded => simp [Strip.asks]
  | still _ idle => cases a <;> simp_all [Strip.asks, Strip.Idles]
  | _ => rfl

/-- Events come from jobs that end, and leave for the editor. -/
theorem Turn.allEvents_eq (turn : Turn e s a x y v gx) :
    v.allEvents (fx ++ gx) = s.allEvents fx ++ y.toList.map Ending.event := by
  simp only [Strip.allEvents, List.filterMap_append]
  cases turn with
  | refused | replaced | outrun => simp [List.filterMap_cons]
  | @ended t k j answer =>
    rw [(filterMap_ofAnswer j.request.ticket answer).2.2]
    simp [Ending.event]
  | drained =>
    rw [(filterMap_drained ..).2.2]
    simp
  | still _ idle pointing =>
    rw [(filterMap_pointing pointing).2.2]
    simp
  | _ => simp

/-- A refusal is noted when the ticket is drawn, and is all that happens then. -/
theorem Turn.refusal (turn : Turn e s a x y v gx) {t : Ticket} {why : Refusal}
    (h : .note (.requestRefused t why) ∈ gx) :
    gx = [.note (.requestRefused t why)] ∧ t = s.board.drawn + 1 ∧ v.board.drawn = t := by
  cases turn with
  | refused why asked full =>
    simp only [List.mem_singleton, Effect.note.injEq, Note.requestRefused.injEq] at h
    obtain ⟨rfl, rfl⟩ := h
    exact ⟨rfl, rfl, rfl⟩
  | @ended t' k j answer =>
    have hr : t ∈ [] := (filterMap_ofAnswer j.request.ticket answer).1 ▸
      List.mem_filterMap.2 ⟨_, h, rfl⟩
    cases hr
  | still _ idle pointing => cases pointing _ h
  | _ => simp at h

theorem Turn.warning (turn : Turn e s a x y v gx) {n : Note} (h : .note n ∈ gx)
    (hn : n.level = .warning) : ∃ t why, n = .requestRefused t why := by
  cases turn with
  | refused why asked full =>
    simp only [List.mem_singleton, Effect.note.injEq] at h
    exact ⟨_, _, h⟩
  | @ended t k j answer place at_k answered =>
    simp only [List.mem_map, Effect.note.injEq, exists_eq_right] at h
    rcases answer with (_ | _) | (_ | _) <;>
      simp only [Note.ofAnswer, List.mem_singleton, List.not_mem_nil] at h <;> subst h <;>
      cases hn
  | still _ idle pointing => cases pointing _ h
  | _ => simp at h

/-- A request is set aside for one that is kept back instead, and that was made later. -/
theorem Turn.setAside (turn : Turn e s a x y v gx) (hs : (s.accounts fx).Nodup) {t : Ticket}
    (h : .setAside t ∈ gx) : ∃ k, v.worker.memory = some k ∧ t < k.ticket := by
  cases turn with
  | @replaced r k rest window alive first held later =>
    simp only [List.mem_singleton, Effect.setAside.injEq] at h
    exact ⟨r, rfl, h ▸ later⟩
  | @outrun r k rest window alive first held early =>
    simp only [List.mem_singleton, Effect.setAside.injEq] at h
    have hne : r.ticket ≠ k.ticket := by
      intro he
      have := List.nodup_iff_count.1 hs r.ticket
      rw [count_accounts, first, held] at this
      simp [he] at this
      omega
    exact ⟨k, rfl, h ▸ Nat.lt_of_le_of_ne early hne⟩
  | ended => simp at h
  | still _ idle pointing => cases pointing _ h
  | _ => simp at h

/-- All answers of a strip have been given to readings on record. -/
structure Past.Explains (p : Past) (s : Strip) : Prop where
  jobs : ∀ j ∈ s.jobs, ∀ answer, j.answer? = some answer →
    ∃ x ∈ p.readings, x.request = j.request ∧ x.answer = answer
  endings : ∀ y ∈ p.endings, ∃ x ∈ p.readings, x.request = y.request ∧ x.answer = y.answer
  failures : ∀ x ∈ p.readings, (∃ f, x.answer = .error f) ↔ ∃ f, x.result = .error f

theorem Job.failure_iff {j : Job} {b : Board} {x : Reading} (h : j.reading? b = some x) :
    (∃ f, x.answer = .error f) ↔ ∃ f, x.result = .error f := by
  rcases j with ⟨r, _ | tab | result | a⟩ <;> cases h
  rcases result with f | ms <;> simp [Board.absorb]

theorem Turn.explains {p : Past} (turn : Turn e s a x y v gx) (h : p.Explains s) :
    (p.add a x y gx).Explains v := by
  have old : ∀ z ∈ p.readings, z ∈ (p.add a x y gx).readings := fun z hz =>
    Past.mem_readings_add.2 (.inl hz)
  refine ⟨fun j' hj' answer ha => ?_, fun z hz => ?_, fun z hz => ?_⟩
  · rcases turn.job_cases hj' with hj | hj | ⟨j, hj, under_way, rfl, rfl⟩
    · obtain ⟨z, hz, hr⟩ := h.jobs j' hj answer ha
      exact ⟨z, old z hz, hr⟩
    · rw [Job.answer?, hj] at ha
      cases ha
    · obtain ⟨result, hr⟩ := Job.reading?_of_answer under_way ha
      exact ⟨⟨j.request, result, answer⟩, Past.mem_readings_add.2 (.inr hr),
        (Job.request_proceed ..).symm, rfl⟩
  · rcases Past.mem_endings_add.1 hz with hz | hy
    · obtain ⟨w, hw, hr⟩ := h.endings z hz
      exact ⟨w, old w hw, hr⟩
    · cases turn with
      | ended place at_k answered =>
        obtain rfl := Option.some.inj hy
        obtain ⟨w, hw, hr⟩ := h.jobs _ (List.mem_of_getElem? at_k) _ answered
        exact ⟨w, old w hw, hr⟩
      | _ => cases hy
  · rcases Past.mem_readings_add.1 hz with hz | hx
    · exact h.failures z hz
    · cases turn with
      | proceeded place at_k under_way => exact Job.failure_iff hx
      | _ => cases hx

theorem Turn.memory_eq_none (turn : Turn e s a x y v gx) (window : s.settings.debounce.toNat = 0)
    (h : s.worker.memory = none) :
    v.worker.memory = none ∧ gx.filterMap Effect.setAside? = [] := by
  cases turn with
  | kept w | replaced w | outrun w => omega
  | ended => exact ⟨h, (filterMap_ofAnswer ..).2.1⟩
  | drained => exact ⟨h, (filterMap_drained ..).2.1⟩
  | still _ idle pointing => exact ⟨h, (filterMap_pointing pointing).2.1⟩
  | flushed => exact ⟨rfl, rfl⟩
  | _ => exact ⟨h, rfl⟩

/-- A strip whose worker never started has nothing in hand. -/
structure Strip.Dormant (s : Strip) : Prop where
  alive : s.worker.isAlive = false
  waiting : s.worker.mailbox.waiting = []
  memory : s.worker.memory = none
  jobs : s.jobs = []

theorem Turn.dormant (turn : Turn e s a x y v gx) (h : s.Dormant) :
    v.Dormant ∧ x = none ∧ y = none ∧ gx.filterMap Effect.setAside? = [] := by
  have alive := h.alive
  cases turn with
  | accepted asked room => simp [Worker.hasRoom, alive] at room
  | dispatched w al | kept w al | replaced w al | outrun w al | flushed al => simp [alive] at al
  | proceeded place at_k | ended place at_k => simp [h.jobs] at at_k
  | drained =>
    exact ⟨⟨alive, h.waiting, h.memory, h.jobs⟩, rfl, rfl, (filterMap_drained ..).2.1⟩
  | still _ idle pointing =>
    exact ⟨⟨alive, h.waiting, h.memory, h.jobs⟩, rfl, rfl, (filterMap_pointing pointing).2.1⟩
  | _ => exact ⟨⟨alive, h.waiting, h.memory, h.jobs⟩, rfl, rfl, rfl⟩

/-! ## Whole runs -/

namespace Session

/-- The tickets of a fate after a run. -/
def withFate (s : Session) (as : List Action) : Fate → List Ticket :=
  (s.run as).1.strip.withFate (s.run as).2

section
variable (e : Editor) (σ : Settings) (h : UInt32) (available : Bool) (as : List Action)

/-- **The tickets of all fates are the tickets drawn, each once.** -/
theorem accounts_perm :
    let s := (start e σ h available).1
    ((s.run as).1.strip.accounts (s.run as).2).Perm
      (List.range' 1 (s.run as).1.strip.board.drawn) := by
  refine run_induction (P := fun p _ u => (u.accounts p.effects).Perm
    (List.range' 1 u.board.drawn)) rfl ?_ (fun ih turn => turn.accounts_perm ih) as
  cases available <;> exact .refl _

theorem accounts_nodup :
    let s := (start e σ h available).1
    ((s.run as).1.strip.accounts (s.run as).2).Nodup :=
  (accounts_perm e σ h available as).nodup_iff.2 List.nodup_range'

/-- **The events are those of the computations that ended, in the order of their ends.** -/
theorem allEvents_eq :
    let s := (start e σ h available).1
    (s.run as).1.strip.allEvents (s.run as).2 = (s.endings as).map Ending.event := by
  refine run_induction (P := fun p _ u => u.allEvents p.effects = p.endings.map Ending.event) rfl
    rfl (fun ih turn => ?_) as
  simp only [Past.add, turn.allEvents_eq, ih, List.map_append]

end

section
variable {e : Editor} {σ : Settings} {h : UInt32} {available : Bool} (as : List Action)

theorem withFate_of_debounce_eq_zero (window : σ.debounce = 0) :
    let s := (start e σ h available).1
    s.withFate as .kept = [] ∧ s.withFate as .setAside = [] := by
  have key := run_induction (s := (start e σ h available).1)
    (P := fun p _ u => u.settings.debounce.toNat = 0 ∧ u.worker.memory = none ∧
      p.effects.filterMap Effect.setAside? = []) rfl
    ⟨by simp [start, Strip.start, window], rfl, rfl⟩ (fun ih turn => ?_) as
  · exact ⟨by simp [withFate, Strip.withFate, key.2.1], key.2.2⟩
  · have hm := turn.memory_eq_none ih.1 ih.2.1
    rw [turn.settings, Past.add, List.filterMap_append, ih.2.2, hm.2]
    exact ⟨ih.1, hm.1, rfl⟩

/-- Without anything to run on, no computation is ever dispatched, let alone ended. -/
theorem dormant_run :
    let s := (start e σ h false).1
    (s.run as).1.strip.Dormant ∧ s.endings as = [] ∧ s.withFate as .setAside = [] := by
  refine run_induction (P := fun p _ u => u.Dormant ∧ p.endings = [] ∧
    p.effects.filterMap Effect.setAside? = []) rfl ⟨⟨rfl, rfl, rfl, rfl⟩, rfl, rfl⟩
    (fun ih turn => ?_) as
  obtain ⟨dormant, -, rfl, aside⟩ := turn.dormant ih.1
  refine ⟨dormant, by simp [Past.add, ih.2.1], ?_⟩
  rw [Past.add, List.filterMap_append, ih.2.2, aside]
  rfl

end

/-- What becomes of the requests of a run `as` that starts in `s`, where `s` is new. -/
structure Accounted (s : Session) (as : List Action) : Prop where
  /-- A ticket is drawn by each action that asks for markers, and by no other. -/
  drawn : ∀ a, ((s.run as).1.step a).1.strip.board.drawn =
    (s.run as).1.strip.board.drawn + ((s.run as).1.strip.asks a).isSome.toNat
  /-- Every ticket drawn has one fate, and has it once. -/
  one : ∀ t, 0 < t → t ≤ (s.run as).1.strip.board.drawn →
    ∃ f, (s.withFate as f).count t = 1 ∧ ∀ g, g ≠ f → t ∉ s.withFate as g
  /-- No other ticket has a fate; in particular no event carries one. -/
  only : ∀ f, ∀ t ∈ s.withFate as f, 0 < t ∧ t ≤ (s.run as).1.strip.board.drawn
  /-- A ticket is refused, if at all, when it is drawn, and nothing else happens then. -/
  refused : ∀ a t why, .note (.requestRefused t why) ∈ ((s.run as).1.step a).2 →
    ((s.run as).1.step a).2 = [.note (.requestRefused t why)] ∧
      t = (s.run as).1.strip.board.drawn + 1 ∧ ((s.run as).1.step a).1.strip.board.drawn = t
  /-- There are no other warnings. -/
  warnings : ∀ n, .note n ∈ (s.run as).2 → n.level = .warning → ∃ t why, n = .requestRefused t why
  /-- A request is set aside for a later one, which is kept back instead. -/
  setAside : ∀ a t, .setAside t ∈ ((s.run as).1.step a).2 →
    ∃ k, ((s.run as).1.step a).1.strip.worker.memory = some k ∧ t < k.ticket
  /-- The events handed over, and after them those that wait, are those of the jobs that ended, in
      that order. -/
  events : (s.run as).2.filterMap Effect.delivered? ++ (s.run as).1.strip.events =
    (s.endings as).map Ending.event
  /-- Draining hands over all events that wait. -/
  drained : ((s.run as).1.step .drain).2.filterMap Effect.delivered? = (s.run as).1.strip.events ∧
    ((s.run as).1.step .drain).1.strip.events = []
  /-- A job that ended had been read, and its event tells of a failure iff reading failed. -/
  aborted : ∀ y ∈ s.endings as, ∃ x ∈ s.readings as, x.request = y.request ∧
    (y.event = .aborted y.request.ticket ↔ ∃ f, x.result = .error f)

/-- A job ends with the answer that its reading got. -/
theorem explains_run (e : Editor) (σ : Settings) (h : UInt32) (available : Bool)
    (as : List Action) :
    let s := (start e σ h available).1
    (s.past as).Explains (s.run as).1.strip :=
  run_induction (P := fun p _ u => p.Explains u) rfl ⟨fun _ hj => (by cases hj), by simp, by simp⟩
    (fun ih turn => turn.explains ih) as

theorem aborted_run (e : Editor) (σ : Settings) (h : UInt32) (available : Bool)
    (as : List Action) :
    let s := (start e σ h available).1
    ∀ y ∈ s.endings as, ∃ x ∈ s.readings as, x.request = y.request ∧
      (y.event = .aborted y.request.ticket ↔ ∃ f, x.result = .error f) := by
  intro s y hy
  have key := explains_run e σ h available as
  obtain ⟨x, hx, hr, ha⟩ := key.endings y hy
  refine ⟨x, hx, hr, ?_⟩
  rw [← key.failures x hx, ha, Ending.event]
  rcases y.answer with f | _ | _ <;> simp [Event.ofAnswer]

theorem refusal_of_warning (e : Editor) (σ : Settings) (h : UInt32) (available : Bool)
    (as : List Action) {n : Note} (hn : .note n ∈ ((start e σ h available).1.run as).2)
    (hl : n.level = .warning) : ∃ t why, n = .requestRefused t why := by
  have key := run_induction (s := (start e σ h available).1)
    (P := fun p _ _ => ∀ n, .note n ∈ p.effects → n.level = .warning →
      ∃ t why, n = .requestRefused t why) rfl (by simp) (fun ih turn n hn hl => ?_) as
  · exact key n hn hl
  · rcases List.mem_append.1 hn with hn | hn
    · exact ih n hn hl
    · exact turn.warning hn hl

theorem mem_accounts_iff (e : Editor) (σ : Settings) (h : UInt32) (available : Bool)
    (as : List Action) (t : Ticket) :
    let s := (start e σ h available).1
    t ∈ (s.run as).1.strip.accounts (s.run as).2 ↔
      0 < t ∧ t ≤ (s.run as).1.strip.board.drawn := by
  intro s
  rw [(accounts_perm e σ h available as).mem_iff, List.mem_range'_1, Nat.lt_one_add_iff]
  rfl

/-- **Every request has exactly one fate**, whatever the order in which things happen.  Without a
    window none is kept back or set aside, and without anything to run on all are refused. -/
theorem each_request_has_one_fate (e : Editor) (σ : Settings) (h : UInt32) (available : Bool)
    (as : List Action) :
    let s := (start e σ h available).1
    s.Accounted as ∧
    (σ.debounce = 0 → s.withFate as .kept = [] ∧ s.withFate as .setAside = []) ∧
    (available = false →
      (∀ t, 0 < t → t ≤ (s.run as).1.strip.board.drawn → t ∈ s.withFate as .refused) ∧
      s.endings as = [] ∧ (s.run as).1.strip.allEvents (s.run as).2 = []) := by
  intro s
  have nodup := accounts_nodup e σ h available as
  have drawn := mem_accounts_iff e σ h available as
  have turn := turn_run e σ h available as
  refine ⟨⟨fun a => (turn a).drawn_eq, fun t h0 h1 => one_fate nodup ((drawn t).2 ⟨h0, h1⟩),
    fun f t ht => (drawn t).1 (mem_accounts_of_mem ht),
    fun a t why => (turn a).refusal, fun n => refusal_of_warning e σ h available as,
    fun a t => (turn a).setAside nodup, allEvents_eq e σ h available as, ⟨?_, rfl⟩,
    aborted_run e σ h available as⟩, withFate_of_debounce_eq_zero as, ?_⟩
  · exact (filterMap_drained ..).2.2
  · rintro rfl
    obtain ⟨dormant, ends, aside⟩ := dormant_run (e := e) (σ := σ) (h := h) as
    have silent : (s.run as).1.strip.allEvents (s.run as).2 = [] := by
      rw [allEvents_eq, ends, List.map_nil]
    refine ⟨fun t h0 h1 => ?_, ends, silent⟩
    obtain ⟨f, -, hf⟩ := List.mem_flatMap.1 ((drawn t).2 ⟨h0, h1⟩)
    cases f with
    | refused => exact hf
    | waiting => simp [Strip.withFate, dormant.waiting] at hf
    | kept => simp [Strip.withFate, dormant.memory] at hf
    | setAside =>
      have hf : t ∈ s.withFate as .setAside := hf
      rw [aside] at hf
      cases hf
    | running => simp [Strip.withFate, dormant.jobs] at hf
    | ended =>
      have hf : t ∈ ((s.run as).1.strip.allEvents (s.run as).2).map Event.ticket := hf
      rw [silent] at hf
      cases hf

end Session

end MarkerStrip
