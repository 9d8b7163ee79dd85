/-
  A window only delays.

  The requests that a worker gathers are computed later and fewer of them are,
  but the last one of every burst is.  So two strips that differ in nothing but
  the length of the window show the same once what was asked of them has been
  done.

  * `Rehearsal.Passes`: settling goes unnoticed but for what leaves the
    mailbox, and empties it (`Rehearsal.passes_settle`);
  * `Outline.play` is what a script does to an outline, in which no window
    occurs, and `Rehearsal.Follows.play`: what it does to a rehearsal;
  * `Rehearsal.atRest_advance`: after the window the strip is at rest.
-/
import MarkerStrip.Proofs.Diary
import MarkerStrip.Proofs.Outline

namespace MarkerStrip

variable {e : Editor}

/-! ## Settling -/

namespace Rehearsal
variable {r : Rehearsal}

/-- What a rehearsal of machinery alone leads to. -/
structure Passes (r : Rehearsal) (x : Rehearsal × List Effect) : Prop where
  holds : x.1.holds = 0
  eager : x.1.eager = r.eager
  editor : x.1.session.editor = r.session.editor
  onward : r.session.strip.Onward r.session.editor x.1.session.strip
  unrefused : x.2.filterMap Effect.refusal? = []

theorem Passes.andThen {x : Rehearsal × List Effect} {f : Rehearsal → Rehearsal × List Effect}
    (h : r.Passes x) (k : x.1.Passes (f x.1)) : r.Passes (andThen x f) where
  holds := k.holds
  eager := k.eager.trans h.eager
  editor := k.editor.trans h.editor
  onward := h.onward.trans (h.editor ▸ k.onward)
  unrefused := by
    rw [MarkerStrip.andThen, List.filterMap_append, h.unrefused, k.unrefused]
    rfl

theorem passes_rounds (holds : r.holds = 0) (queued : r.session.strip.Queued) (n : Nat) :
    r.Passes (r.run (List.replicate n .work)) := by
  have behind : ∀ a ∈ List.replicate n Action.work, a.isBehind = true := by
    intro a ha
    rw [List.eq_of_mem_replicate ha]
    rfl
  obtain ⟨editor, unrefused⟩ := r.session.run_of_behind queued.sender behind
  exact ⟨holds, rfl, editor, Session.onward_rounds queued n, unrefused⟩

theorem passes_jobs (holds : r.holds = 0) (queued : r.session.strip.Queued) :
    let x := r.advanceJobs (r.session.strip.jobs.map fun j => j.request.ticket)
    r.Passes x ∧ x.1.session.strip.jobs = [] ∧
      x.1.session.strip.worker = r.session.strip.worker := by
  induction hj : r.session.strip.jobs generalizing r with
  | nil => exact ⟨⟨holds, rfl, rfl, queued.onward_refl _, rfl⟩, hj, rfl⟩
  | cons j js ih =>
    have fresh : j = { request := j.request } := by
      have := queued.fresh j (hj ▸ List.mem_cons_self ..)
      rcases j with ⟨r, stage⟩
      rw [← this]
    rw [fresh] at hj
    have first := Session.run_first hj
    have onward := Session.onward_first queued hj
    have job : r.advanceJob j.request.ticket = r.run (jobActions false j.request.ticket) := by
      rcases r with ⟨session, _, eager⟩
      obtain rfl : _ = 0 := holds
      rfl
    have behind : ∀ a ∈ jobActions false j.request.ticket, a.isBehind = true := by
      simp [jobActions, readActions, Action.isBehind]
    obtain ⟨editor, unrefused⟩ := r.session.run_of_behind queued.sender behind
    have passes : r.Passes (r.run (jobActions false j.request.ticket)) :=
      ⟨holds, rfl, editor, onward, unrefused⟩
    obtain ⟨rest, jobs, worker⟩ := ih (r := (r.run (jobActions false j.request.ticket)).1) holds
      onward.queued (by simp [run, first])
    refine ⟨?_, ?_, ?_⟩
    · rw [List.map_cons, advanceJobs, job]
      exact passes.andThen rest
    · rw [List.map_cons, advanceJobs, job]
      exact jobs
    · rw [List.map_cons, advanceJobs, job]
      refine worker.trans ?_
      simp [run, first]

theorem unstarted_eq (queued : r.session.strip.Queued) :
    r.unstarted = r.session.strip.jobs.map fun j => j.request.ticket := by
  rw [unstarted, List.filter_eq_self.2 fun j hj => by simp [Job.isNew, queued.fresh j hj]]

/-- **Settling computes all requests that do not wait for the clock.** -/
theorem passes_settle (holds : r.holds = 0) (queued : r.session.strip.Queued) :
    r.Passes r.settle ∧ r.settle.1.session.strip.jobs = [] ∧
      r.settle.1.session.strip.worker =
        (Worker.settle r.session.strip.gathering r.session.strip.worker).1 := by
  have rounds := passes_rounds holds queued r.session.strip.worker.rank
  obtain ⟨passes, jobs, worker⟩ := passes_jobs rounds.holds rounds.onward.queued
  rw [← unstarted_eq rounds.onward.queued] at passes jobs worker
  exact ⟨rounds.andThen passes, jobs,
    worker.trans (r.session.worker_rounds queued.sender r.session.strip.worker.rank)⟩

theorem idle_settle (holds : r.holds = 0) (queued : r.session.strip.Queued) :
    r.settle.1.session.strip.worker.step r.settle.1.session.strip.gathering = none := by
  obtain ⟨passes, -, worker⟩ := passes_settle holds queued
  rw [worker, Strip.gathering, passes.onward.settings]
  exact Worker.step_settle_eq_none ..

end Rehearsal

/-! ## Scripts -/

/-- What may happen in a rehearsal whose editor does not change. -/
inductive Cue where
  | update (ds : List Diagnostic)
  | refresh
  | resize (height : UInt32)
  | drain
  | settle
  | advance (ms : Nat) (jump : Bool)
deriving Repr, DecidableEq

namespace Rehearsal

/-- A rehearsal of a new strip. -/
def start (e : Editor) (σ : Settings) (h : UInt32) (available eager : Bool) : Rehearsal where
  session := (Session.start e σ h available).1
  eager := eager

/-- One cue. -/
def perform (r : Rehearsal) : Cue → Rehearsal × List Effect
  | .update ds => r.request (.update ds)
  | .refresh => r.request .refresh
  | .resize height => r.request (.resize height)
  | .drain => r.run [.drain]
  | .settle => r.settle
  | .advance ms jump => r.advance ms jump

/-- A list of cues, with all their effects. -/
def play (r : Rehearsal) : List Cue → Rehearsal × List Effect
  | [] => (r, [])
  | c :: cs => andThen (r.perform c) fun r => r.play cs

end Rehearsal

namespace Outline

/-- What follows a request. -/
def followUp (eager : Bool) (x : Outline × List (Ticket × Refusal)) :
    Outline × List (Ticket × Refusal) :=
  (if eager then x.1.emptied else x.1, x.2)

/-- A cue, as far as outlines tell. -/
def perform (e : Editor) (eager : Bool) (o : Outline) : Cue → Outline × List (Ticket × Refusal)
  | .update ds => followUp eager ({ o with latest := ds }.request e)
  | .refresh => followUp eager (o.request e)
  | .resize height =>
    followUp eager (if o.height = height then (o, []) else { o with height }.request e)
  | .drain => (o, [])
  | .settle => (o.emptied, [])
  | .advance ms jump => (((if jump then o else o.emptied).elapse ms).emptied, [])

/-- A list of cues, with all refusals. -/
def play (e : Editor) (eager : Bool) (o : Outline) : List Cue → Outline × List (Ticket × Refusal)
  | [] => (o, [])
  | c :: cs =>
    let x := o.perform e eager c
    let y := x.1.play e eager cs
    (y.1, x.2 ++ y.2)

end Outline

/-- A rehearsal with the outline `o` and a window of its own, and nothing held back. -/
structure Rehearsal.Follows (e : Editor) (eager : Bool) (w : UInt64) (o : Outline)
    (r : Rehearsal) : Prop where
  editor : r.session.editor = e
  eager : r.eager = eager
  holds : r.holds = 0
  queued : r.session.strip.Queued
  window : r.session.strip.settings.debounce = w
  outline : r.session.strip.outline e = o

/-- What happens in a rehearsal is what outlines tell of it. -/
structure Rehearsal.Tells (e : Editor) (eager : Bool) (w : UInt64) (x : Rehearsal × List Effect)
    (y : Outline × List (Ticket × Refusal)) : Prop where
  follows : x.1.Follows e eager w y.1
  refusals : x.2.filterMap Effect.refusal? = y.2

theorem Rehearsal.Tells.andThen {eager : Bool} {w : UInt64} {x : Rehearsal × List Effect}
    {f : Rehearsal → Rehearsal × List Effect} {y z : Outline × List (Ticket × Refusal)}
    (h : Tells e eager w x y) (k : Tells e eager w (f x.1) z) :
    Tells e eager w (andThen x f) (z.1, y.2 ++ z.2) where
  follows := k.follows
  refusals := by rw [MarkerStrip.andThen, List.filterMap_append, h.refusals, k.refusals]

namespace Rehearsal.Follows
variable {r : Rehearsal} {o : Outline} {eager : Bool} {w : UInt64}

theorem onStrip (follows : r.Follows e eager w o) {a : Action} {f : Strip → Strip × List Effect}
    {y : Outline × List (Ticket × Refusal)} (step : r.session.step a = r.session.onStrip f)
    (queued : (f r.session.strip).1.Queued) (outline : (f r.session.strip).1.outline e = y.1)
    (refusals : (f r.session.strip).2.filterMap Effect.refusal? = y.2) :
    Tells e eager w (r.run [a]) y := by
  have settings := (r.session.turn_step follows.queued.sender a).settings
  have run : r.run [a] = ({ r with session := (r.session.onStrip f).1 },
      (f r.session.strip).2) := by
    simp only [Rehearsal.run, Session.run, MarkerStrip.andThen, step, List.append_nil]
    rfl
  rw [step] at settings
  rw [run]
  exact ⟨⟨follows.editor, follows.eager, follows.holds, queued,
    (congrArg Settings.debounce settings).trans follows.window, outline⟩, refusals⟩

/-- Settling empties the mailbox, and else goes unnoticed. -/
theorem settle (follows : r.Follows e eager w o) : Tells e eager w r.settle (o.emptied, []) := by
  obtain ⟨passes, -, -⟩ := passes_settle follows.holds follows.queued
  have empty := passes.onward.queued.waiting_of_idle (idle_settle follows.holds follows.queued)
  refine ⟨⟨passes.editor.trans follows.editor, passes.eager.trans follows.eager, passes.holds,
    passes.onward.queued, (congrArg Settings.debounce passes.onward.settings).trans follows.window,
    ?_⟩, passes.unrefused⟩
  rw [← follows.editor, passes.onward.emptied empty, follows.editor, follows.outline]

theorem elapse (follows : r.Follows e eager w o) (ms : Nat) :
    Tells e eager w (r.run [.elapse ms]) (o.elapse ms, []) := by
  refine follows.onStrip (f := fun s => (s.elapse ms, [])) rfl (follows.queued.elapse ms) ?_ rfl
  rw [← follows.outline]
  rfl

theorem drain (follows : r.Follows e eager w o) : Tells e eager w (r.run [.drain]) (o, []) := by
  have queued := follows.queued
  refine follows.onStrip (f := Strip.drain) rfl ?_ follows.outline ?_
  · exact queued.congr rfl rfl rfl queued.sorted
  · exact Turn.unrefused (e := e) (s := r.session.strip) .drained rfl

theorem request (follows : r.Follows e eager w o) {a : Action} {f : Strip → Strip × List Effect}
    {y : Outline × List (Ticket × Refusal)} (step : r.session.step a = r.session.onStrip f)
    (queued : (f r.session.strip).1.Queued) (outline : (f r.session.strip).1.outline e = y.1)
    (refusals : (f r.session.strip).2.filterMap Effect.refusal? = y.2) :
    Tells e eager w (r.request a) (Outline.followUp eager y) := by
  have made := follows.onStrip step queued outline refusals
  have after : Tells e eager w
      (if (r.run [a]).1.eager then (r.run [a]).1.settle else ((r.run [a]).1, []))
      (if eager then y.1.emptied else y.1, []) := by
    rw [made.follows.eager]
    cases eager with
    | true => exact made.follows.settle
    | false => exact ⟨made.follows, rfl⟩
  have told := made.andThen (f := fun r => if r.eager then r.settle else (r, [])) after
  rwa [List.append_nil] at told

theorem resize (follows : r.Follows e eager w o) (height : UInt32) :
    Tells e eager w (r.request (.resize height)) (o.perform e eager (.resize height)) := by
  have queued := follows.queued
  rw [← follows.outline]
  by_cases same : r.session.strip.height = height
  · have step : r.session.strip.resize height = (r.session.strip, []) := if_pos same
    have outline : (r.session.strip.outline e).perform e eager (.resize height) =
        Outline.followUp eager (r.session.strip.outline e, []) :=
      congrArg (Outline.followUp eager) (if_pos same)
    rw [outline]
    exact follows.request (f := fun s => s.resize height) rfl (step ▸ queued) (by rw [step])
      (by rw [step]; rfl)
  · have step : r.session.strip.resize height = Strip.request { r.session.strip with height } :=
      if_neg same
    have outline : (r.session.strip.outline e).perform e eager (.resize height) =
        Outline.followUp eager ((Strip.outline { r.session.strip with height } e).request e) :=
      congrArg (Outline.followUp eager) (if_neg same)
    have told := Strip.outline_request { r.session.strip with height } e
    have resized : Strip.Queued { r.session.strip with height } :=
      queued.congr rfl rfl rfl queued.sorted
    rw [outline]
    exact follows.request (f := fun s => s.resize height) rfl (step ▸ resized.request)
      (by rw [step, told.1]) (by rw [step, told.2])

/-- A jump leaves the first settlement out. -/
theorem unlessJump (follows : r.Follows e eager w o) (jump : Bool) :
    Tells e eager w (if jump then (r, []) else r.settle) (if jump then o else o.emptied, []) := by
  cases jump with
  | true => exact ⟨follows, rfl⟩
  | false => exact follows.settle

theorem advance (follows : r.Follows e eager w o) (ms : Nat) (jump : Bool) :
    Tells e eager w (r.advance ms jump)
      (((if jump then o else o.emptied).elapse ms).emptied, []) := by
  have before := follows.unlessJump jump
  have later := before.follows.elapse ms
  exact before.andThen (f := fun r => MarkerStrip.andThen (r.run [.elapse ms]) Rehearsal.settle)
    (later.andThen later.follows.settle)

/-- **What a cue does to the outline depends on nothing but the outline.** -/
theorem perform (follows : r.Follows e eager w o) (c : Cue) :
    Tells e eager w (r.perform c) (o.perform e eager c) := by
  have queued := follows.queued
  cases c with
  | update ds =>
    have told := Strip.outline_request { r.session.strip with latest := ds } e
    have updated : Strip.Queued { r.session.strip with latest := ds } :=
      queued.congr rfl rfl rfl queued.sorted
    rw [← follows.outline]
    exact follows.request (f := fun s => s.update ds) rfl updated.request told.1 told.2
  | refresh =>
    have told := r.session.strip.outline_request e
    rw [← follows.outline]
    exact follows.request (f := Strip.refresh) rfl queued.request told.1 told.2
  | resize height => exact follows.resize height
  | drain => exact follows.drain
  | settle => exact follows.settle
  | advance ms jump => exact follows.advance ms jump

theorem play (follows : r.Follows e eager w o) (cs : List Cue) :
    Tells e eager w (r.play cs) (o.play e eager cs) := by
  induction cs generalizing r o with
  | nil => exact ⟨follows, rfl⟩
  | cons c cs ih =>
    have first := follows.perform c
    exact first.andThen (ih first.follows)

end Rehearsal.Follows

/-! ## The end of a script -/

/-- Nothing waits for a worker, and its deadline, if any, has come. -/
structure Worker.Overdue {σ ε : Type} (w : Worker σ ε) : Prop where
  empty : w.mailbox.waiting = []
  past : ∀ d, w.deadline = some d → d ≤ w.clock

section
variable {σ ε ω : Type} {h : Handler σ ε ω} {w : Worker σ ε}

theorem Worker.Overdue.step (overdue : w.Overdue) {v : Worker σ ε} {a : Activity ε}
    {out : List ω} (hs : w.step h = some (v, a, out)) : v.Overdue := by
  obtain ⟨-, round⟩ := round_of_step hs
  cases round with
  | received first => cases overdue.empty.symm.trans first
  | ended => exact ⟨rfl, nofun⟩
  | flushed => exact ⟨overdue.empty, nofun⟩

theorem Worker.Overdue.run (overdue : w.Overdue) (n : Nat) : (Worker.run h n w).1.Overdue := by
  induction n generalizing w with
  | zero => exact overdue
  | succ n ih =>
    simp only [Worker.run]
    split
    · exact overdue
    · next hs => exact ih (overdue.step hs)

end

namespace Rehearsal
variable {r : Rehearsal}

/-- Once the window has gone by, a strip that has nothing else to do comes to rest. -/
theorem atRest_settle (holds : r.holds = 0) (queued : r.session.strip.Queued)
    (overdue : r.session.strip.worker.Overdue) : r.settle.1.session.strip.AtRest := by
  obtain ⟨passes, jobs, worker⟩ := passes_settle holds queued
  refine ⟨idle_settle holds queued, ?_, jobs⟩
  rw [worker]
  exact (overdue.run _).past

theorem atRest_advance {eager : Bool} {w : UInt64} {o : Outline} (follows : r.Follows e eager w o)
    (empty : o.mailbox.waiting = []) {ms : Nat} (closed : w.toNat ≤ ms) (jump : Bool) :
    (r.advance ms jump).1.session.strip.AtRest := by
  have before : (if jump then (r, []) else r.settle).1.Follows e eager w
      (if jump then o else o.emptied) := (follows.unlessJump jump).follows
  have empty' : (if jump then o else o.emptied).mailbox.waiting = [] := by
    cases jump with
    | true => exact empty
    | false => rfl
  have later := (before.elapse ms).follows
  rw [advance]
  simp only [MarkerStrip.andThen]
  refine atRest_settle later.holds later.queued ⟨?_, fun d hd => ?_⟩
  · rw [← before.outline] at empty'
    exact empty'
  · have soon := before.queued.soon d hd
    rw [before.window] at soon
    exact Nat.le_trans soon (Nat.add_le_add_left closed _)

theorem follows_start (e : Editor) (σ : Settings) (h : UInt32) (available eager : Bool) :
    (start e σ h available eager).Follows e eager σ.debounce
      ((start e σ h available eager).session.strip.outline e) := by
  refine ⟨rfl, rfl, rfl, ⟨nofun, ?_, ⟨fun _ => rfl, fun _ => rfl⟩, nofun, rfl, ?_⟩, rfl, rfl⟩
  · have line : (start e σ h available eager).session.strip.line = [] := by
      cases available <;> rfl
    rw [line]
    exact List.pairwise_pair.2 Nat.zero_lt_one
  · cases available with
    | true => exact .inl ⟨rfl, Nat.succ_pos _⟩
    | false => exact .inr ⟨⟨rfl, rfl, rfl, rfl⟩, rfl⟩

theorem play_append (r : Rehearsal) (cs ds : List Cue) :
    r.play (cs ++ ds) = andThen (r.play cs) fun r => r.play ds := by
  induction cs generalizing r with
  | nil => simp [play, andThen]
  | cons c cs ih => simp only [List.cons_append, play, ih, andThen_assoc]

/-- A script that ends with enough time brings the strip to rest. -/
theorem atRest_play {r : Rehearsal} {eager : Bool} {w : UInt64} {o : Outline}
    (follows : r.Follows e eager w o) (cues : List Cue) {ms : Nat} (closed : w.toNat ≤ ms)
    (jump : Bool) :
    (r.play (cues ++ [.settle, .advance ms jump])).1.session.strip.AtRest := by
  have settled := (follows.play cues).follows.settle.follows
  have rest := atRest_advance settled rfl closed jump
  rw [play_append]
  simpa only [andThen, play, perform] using rest

/-- **Gathering requests changes only what is shown in between**: two strips that differ in the
    length of the window, and of which the same is asked, end in the same state once both windows
    have gone by, but for the markers that were on show before and the events on their way, and the
    same requests have been refused. -/
theorem same_end_for_any_window (e : Editor) (σ : Settings) (w w' : UInt64) (h : UInt32)
    (available eager : Bool) (cues : List Cue) (ms : Nat) (jump : Bool) (closed : w.toNat ≤ ms)
    (closed' : w'.toNat ≤ ms) :
    let script := cues ++ [.settle, .advance ms jump]
    let x := (start e { σ with debounce := w } h available eager).play script
    let y := (start e { σ with debounce := w' } h available eager).play script
    y.1.session.strip.board.current = x.1.session.strip.board.current ∧
    y.1.session.strip.board.published = x.1.session.strip.board.published ∧
    y.1.session.strip.height = x.1.session.strip.height ∧
    y.2.filterMap Effect.refusal? = x.2.filterMap Effect.refusal? ∧
    y.1.session.strip = { x.1.session.strip with
      settings := { x.1.session.strip.settings with debounce := w' }
      board := { x.1.session.strip.board with previous := y.1.session.strip.board.previous }
      events := y.1.session.strip.events } := by
  intro script x y
  have first := follows_start e { σ with debounce := w } h available eager
  have second := follows_start e { σ with debounce := w' } h available eager
  have ⟨done, refusals⟩ := first.play script
  have ⟨done', refusals'⟩ := second.play script
  have same : y.1.session.strip = _ :=
    Strip.eq_of_outline (done'.outline.trans done.outline.symm) done.queued done'.queued
      (atRest_play first cues closed jump) (atRest_play second cues closed' jump)
  rw [done'.window] at same
  refine ⟨?_, ?_, ?_, refusals'.trans refusals.symm, same⟩ <;> rw [same]

/-- A burst of two updates, shown one after the other or gathered into one. -/
theorem same_end_for_any_window_burst :
    let e : Editor := { documents := [(0, some (.text "a\nb"))] }
    let cues : List Cue := [.update [⟨0, 0, .error, "x"⟩], .settle, .update [⟨0, 1, .warning, "y"⟩]]
    let script := cues ++ [.settle, .advance 30 false]
    let x := (start e { ({} : Settings) with debounce := 0 } 100 true false).play script
    let y := (start e { ({} : Settings) with debounce := 30 } 100 true false).play script
    (0 : UInt64).toNat ≤ 30 ∧ (30 : UInt64).toNat ≤ 30 ∧
      y.1.session.strip.board.current = x.1.session.strip.board.current ∧
      y.1.session.strip.board.previous ≠ x.1.session.strip.board.previous :=
  ⟨by decide, by decide,
    (same_end_for_any_window { documents := [(0, some (.text "a\nb"))] } {} 0 30 100 true false
      [.update [⟨0, 0, .error, "x"⟩], .settle, .update [⟨0, 1, .warning, "y"⟩]] 30 false
      (by decide) (by decide)).1, by decide +kernel⟩

end Rehearsal

end MarkerStrip
