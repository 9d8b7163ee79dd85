/-
  Boards at work: what is on show after any computations, in any order.

  * `Bench.Lawful` says what holds of a bench at any time, and
    `Bench.lawful_run`: above all its board shows what the readings came to;
  * `Bench.board_congr`: while the editor stays as it is, the order of the
    steps does not matter;
  * `Bench.Matches` compares a bench with a strip; `Session.exists_bench_run`:
    whatever a strip does can be done by hand.
-/
import Mathlib.Data.List.Nodup
import MarkerStrip.Bench
import MarkerStrip.Proofs.Fates
import MarkerStrip.Proofs.Newest

namespace MarkerStrip

namespace Bench

/-! ## Runs -/

/-- The reading that a move offers to the board. -/
def reading? (b : Bench) : Move → Option Reading
  | .proceed k => b.jobs[k]?.bind fun j => j.reading? b.board
  | _ => none

/-- The readings that are offered to the board, in the order of the offers. -/
def readings (b : Bench) : List Move → List Reading
  | [] => []
  | m :: ms => (b.reading? m).toList ++ (b.step m).readings ms

theorem run_concat (b : Bench) (ms : List Move) (m : Move) :
    b.run (ms ++ [m]) = (b.run ms).step m := by
  simp [run]

theorem readings_append (b : Bench) (ms ns : List Move) :
    b.readings (ms ++ ns) = b.readings ms ++ (b.run ms).readings ns := by
  induction ms generalizing b with
  | nil => rfl
  | cons m ms ih =>
    simp only [List.cons_append, readings, ih, List.append_assoc]
    rfl

theorem readings_concat (b : Bench) (ms : List Move) (m : Move) :
    b.readings (ms ++ [m]) = b.readings ms ++ ((b.run ms).reading? m).toList := by
  rw [readings_append, readings, readings, List.append_nil]

/-- What a bench starts with and every move keeps holds after every run. -/
theorem run_induction {P : List Move → List Reading → Bench → Prop} {b : Bench} (start : P [] [] b)
    (step : ∀ {ms xs c} m, c = b.run ms → P ms xs c →
      P (ms ++ [m]) (xs ++ (c.reading? m).toList) (c.step m))
    (ms : List Move) : P ms (b.readings ms) (b.run ms) := by
  induction ms using List.reverseRecOn with
  | nil => exact start
  | append_singleton ms m ih =>
    rw [readings_concat, run_concat]
    exact step m rfl ih

variable {b : Bench} {k : Nat} {j : Job} {xs : List Reading}

/-! ### The moves of a computation -/

theorem proceed_of_under_way (at_k : b.jobs[k]? = some j) (under_way : j.answer? = none) :
    b.proceed k = { b with
      board := (j.proceed b.layout b.editor b.board).2
      jobs := b.jobs.set k (j.proceed b.layout b.editor b.board).1 } := by
  simp only [proceed, at_k, under_way]

theorem proceed_of_answered {answer : Except ReadFailure Outcome} (at_k : b.jobs[k]? = some j)
    (answered : j.answer? = some answer) : b.proceed k = { b with jobs := b.jobs.eraseIdx k } := by
  simp only [proceed, at_k, answered]

theorem proceed_of_none (at_k : b.jobs[k]? = none) : b.proceed k = b := by
  simp only [proceed, at_k]

theorem reading?_proceed (at_k : b.jobs[k]? = some j) :
    b.reading? (.proceed k) = j.reading? b.board := by
  simp only [reading?, at_k, Option.bind_some]

theorem reading?_proceed_of_none (at_k : b.jobs[k]? = none) : b.reading? (.proceed k) = none := by
  simp only [reading?, at_k, Option.bind_none]

/-- A computation that nothing comes between is performed as a whole. -/
theorem run_perform {r : Request} (at_k : b.jobs[k]? = some { request := r }) :
    b.run [.proceed k, .proceed k, .proceed k] = { b with
      board := match r.perform b.layout b.editor b.board with
        | .ok (_, board) => board
        | .error _ => b.board
      jobs := b.jobs.set k
        ⟨r, .answered ((r.perform b.layout b.editor b.board).map Prod.fst)⟩ } := by
  have at_set (j' : Job) : (b.jobs.set k j')[k]? = some j' :=
    List.getElem?_set_self (List.getElem?_eq_some_iff.1 at_k).1
  simp only [run, List.foldl_cons, List.foldl_nil, step, proceed, at_k, at_set, Job.answer?,
    Job.proceed, List.set_set, Request.perform]
  rcases r.compute b.layout b.editor b.editor.activeTab with f | ms <;> rfl

/-! ## What always holds -/

/-- A bench whose readings so far are `xs`. -/
structure Lawful (b : Bench) (xs : List Reading) : Prop where
  tickets : b.requests.map Request.ticket = List.range' 1 b.board.drawn
  jobs : ∀ j ∈ b.jobs, j.request ∈ b.requests
  known : ∀ x ∈ xs, x.request ∈ b.requests
  reflects : b.board.Reflects xs

theorem Lawful.drawn (h : b.Lawful xs) {r : Request} (hr : r ∈ b.requests) :
    0 < r.ticket ∧ r.ticket ≤ b.board.drawn := by
  have : r.ticket ∈ List.range' 1 b.board.drawn := h.tickets ▸ List.mem_map_of_mem hr
  rwa [List.mem_range'_1, Nat.lt_one_add_iff] at this

theorem Lawful.unique (h : b.Lawful xs) {r r' : Request} (hr : r ∈ b.requests)
    (hr' : r' ∈ b.requests) (ht : r.ticket = r'.ticket) : r = r' :=
  List.inj_on_of_nodup_map (h.tickets ▸ List.nodup_range') hr hr' ht

theorem Lawful.request (h : b.Lawful xs) (ds : List Diagnostic) (height : UInt32) :
    (b.request ds height).Lawful xs where
  tickets := by
    simp only [Bench.request, Board.draw, List.map_append, List.map_cons, List.map_nil, h.tickets,
      List.range'_1_concat, Nat.add_comm]
  jobs := fun j hj => List.mem_append_left _ (h.jobs j hj)
  known := fun x hx => List.mem_append_left _ (h.known x hx)
  reflects := ⟨h.reflects.published, h.reflects.current⟩

theorem Lawful.call (h : b.Lawful xs) (i : Nat) : (b.call i).Lawful xs where
  tickets := h.tickets
  jobs := by
    intro j hj
    rcases List.mem_append.1 hj with hj | hj
    · exact h.jobs j hj
    · obtain ⟨r, hr, rfl⟩ := List.mem_map.1 hj
      exact List.mem_of_getElem? (Option.mem_toList.1 hr)
  known := h.known
  reflects := h.reflects

theorem Lawful.proceed (h : b.Lawful xs) (k : Nat) :
    (b.proceed k).Lawful (xs ++ (b.reading? (.proceed k)).toList) := by
  rcases at_k : b.jobs[k]? with _ | j
  · rw [proceed_of_none at_k, reading?_proceed_of_none at_k, Option.toList_none, List.append_nil]
    exact h
  have hj : j.request ∈ b.requests := h.jobs j (List.mem_of_getElem? at_k)
  rw [reading?_proceed at_k]
  rcases answer : j.answer? with _ | a
  · rw [proceed_of_under_way at_k answer]
    refine ⟨?_, fun j' hj' => ?_, fun x hx => ?_, ?_⟩
    · simp only [Job.drawn_proceed]
      exact h.tickets
    · rcases List.mem_or_eq_of_mem_set hj' with hj' | rfl
      · exact h.jobs j' hj'
      · rwa [Job.request_proceed]
    · rcases List.mem_append.1 hx with hx | hx
      · exact h.known x hx
      · rwa [Job.request_eq (Option.mem_toList.1 hx)]
    · simp only [Job.board_proceed]
      refine h.reflects.take fun z hz => ?_
      rw [Reading.ticket, Job.request_eq hz]
      exact (h.drawn hj).1
  · rw [proceed_of_answered at_k answer, Job.reading?_eq_none answer, Option.toList_none,
      List.append_nil]
    exact ⟨h.tickets, fun j' hj' => h.jobs j' (List.mem_of_mem_eraseIdx hj'), h.known, h.reflects⟩

theorem Lawful.step (h : b.Lawful xs) (m : Move) :
    (b.step m).Lawful (xs ++ (b.reading? m).toList) := by
  have quiet : ∀ {c : Bench}, c.Lawful xs → c.Lawful (xs ++ (none : Option Reading).toList) := by
    intro c hc
    rwa [Option.toList_none, List.append_nil]
  cases m with
  | request ds height => exact quiet (h.request ds height)
  | call i => exact quiet (h.call i)
  | proceed k => exact h.proceed k
  | _ => exact quiet ⟨h.tickets, h.jobs, h.known, h.reflects⟩

/-- A bench on which nothing has been done. -/
def new (e : Editor) (l : Layout) : Bench := { editor := e, layout := l }

/-- **A board always shows what the readings so far came to.** -/
theorem lawful_run (e : Editor) (l : Layout) (ms : List Move) :
    ((new e l).run ms).Lawful ((new e l).readings ms) :=
  run_induction (P := fun _ xs c => c.Lawful xs) ⟨rfl, by simp [new], by simp, rfl, rfl⟩
    (fun m _ ih => ih.step m) ms

/-- **No move goes back, or heeds late markers.** -/
theorem guards_step (b : Bench) (m : Move) : b.board.Guards (b.reading? m) (b.step m).board := by
  cases m with
  | request ds height => exact .draw _
  | proceed k =>
    show b.board.Guards _ (b.proceed k).board
    rcases at_k : b.jobs[k]? with _ | j
    · rw [proceed_of_none at_k, reading?_proceed_of_none at_k]
      exact .refl _
    · rw [reading?_proceed at_k]
      rcases answer : j.answer? with _ | a
      · rw [proceed_of_under_way at_k answer]
        exact .proceed ..
      · rw [proceed_of_answered at_k answer, Job.reading?_eq_none answer]
        exact .refl _
  | _ => exact .refl _

/-! ## Where results come from -/

theorem job_cases {b : Bench} {m : Move} {j' : Job} (h : j' ∈ (b.step m).jobs) :
    j' ∈ b.jobs ∨ j'.stage = .dispatched ∨
      ∃ j ∈ b.jobs, j' = (j.proceed b.layout b.editor b.board).1 := by
  cases m with
  | call i =>
    rcases List.mem_append.1 h with h | h
    · exact .inl h
    · obtain ⟨r, -, rfl⟩ := List.mem_map.1 h
      exact .inr (.inl rfl)
  | proceed k =>
    replace h : j' ∈ (b.proceed k).jobs := h
    rcases at_k : b.jobs[k]? with _ | j
    · rw [proceed_of_none at_k] at h
      exact .inl h
    · rcases answer : j.answer? with _ | a
      · rw [proceed_of_under_way at_k answer] at h
        rcases List.mem_or_eq_of_mem_set h with h | h
        · exact .inl h
        · exact .inr (.inr ⟨j, List.mem_of_getElem? at_k, h⟩)
      · rw [proceed_of_answered at_k answer] at h
        exact .inl (List.mem_of_mem_eraseIdx h)
  | _ => exact .inl h

theorem sound_step {b : Bench} {tabs : Request → UInt64 → Prop}
    {results : Request → Except ReadFailure (List Marker) → Prop} (m : Move)
    (h : ∀ j ∈ b.jobs, j.Sound tabs results) (ht : ∀ r, tabs r b.editor.activeTab)
    (hr : ∀ r tab, tabs r tab → results r (r.compute b.layout b.editor tab)) :
    (∀ j ∈ (b.step m).jobs, j.Sound tabs results) ∧
      ∀ z, b.reading? m = some z → results z.request z.result := by
  constructor
  · intro j' hj'
    rcases job_cases hj' with hj | hj | ⟨j, hj, rfl⟩
    · exact h j' hj
    · exact .of_isNew hj
    · exact (h j hj).proceed _ (fun _ => ht _) hr
  · intro z hz
    cases m with
    | proceed k =>
      obtain ⟨j, at_k, hz⟩ := Option.bind_eq_some_iff.1 hz
      exact (h j (List.mem_of_getElem? at_k)).reading hz
    | _ => cases hz

/-- A result that was computed at one time over the tab that was active at an earlier time. -/
def Computed (b : Bench) (ms : List Move) (r : Request)
    (result : Except ReadFailure (List Marker)) : Prop :=
  ∃ early late, early <+: late ∧ late <+: ms ∧
    result = r.compute (b.run late).layout (b.run late).editor (b.run early).editor.activeTab

/-- **Every reading is of a document in a tab that was active before.** -/
theorem computed_run (e : Editor) (l : Layout) (ms : List Move) :
    ∀ x ∈ (new e l).readings ms, (new e l).Computed ms x.request x.result := by
  refine exists_computed (fun ms => ((new e l).run ms).editor)
    (fun ms => ((new e l).run ms).layout) (fun ms => ((new e l).run ms).jobs) rfl rfl
    (fun ms m tabs results jobs ht hr => ?_) ms
  obtain ⟨jobs', offered⟩ := sound_step m jobs ht hr
  rw [run_concat, readings_concat]
  refine ⟨jobs', fun x hx => ?_⟩
  rcases List.mem_append.1 hx with hx | hx
  · exact .inl hx
  · exact .inr (offered x (Option.mem_toList.1 hx))

/-! ## While nothing is changed -/

/-- A move that changes neither what the editor shows nor the layout. -/
def Keeps (e : Editor) (l : Layout) : Move → Prop
  | .switchTab tab => tab = e.activeTab
  | .setDocument tab d => d = e.document? tab
  | .setLayout l' => l' = l
  | _ => True

theorem agrees_step {e : Editor} {l : Layout} {b : Bench} {m : Move} (keeps : Keeps e l m)
    (h : e.Agrees b.editor ∧ b.layout = l) :
    e.Agrees (b.step m).editor ∧ (b.step m).layout = l := by
  cases m with
  | switchTab tab => exact ⟨keeps ▸ Editor.agrees_switchTab h.1, h.2⟩
  | setDocument tab d => exact ⟨keeps ▸ Editor.agrees_setDocument h.1 tab, h.2⟩
  | setLayout l' => exact ⟨h.1, keeps⟩
  | proceed k =>
    show e.Agrees (b.proceed k).editor ∧ (b.proceed k).layout = l
    unfold proceed
    repeat' split
    all_goals exact h
  | _ => exact h

section
variable {e : Editor} {l : Layout} {ms ns : List Move}

/-- Meanwhile what a computation comes to is a function of its request. -/
theorem result_of_keeps (keeps : ∀ m ∈ ms, Keeps e l m) :
    ∀ x ∈ (new e l).readings ms, x.result = x.request.compute l e e.activeTab := by
  have key := run_induction (b := new e l) (P := fun ms xs c => (∀ m ∈ ms, Keeps e l m) →
    (e.Agrees c.editor ∧ c.layout = l) ∧
    (∀ j ∈ c.jobs, j.Sound (fun _ tab => tab = e.activeTab)
      fun r result => result = r.compute l e e.activeTab) ∧
    ∀ x ∈ xs, x.result = x.request.compute l e e.activeTab)
    (fun _ => ⟨⟨⟨rfl, fun _ => rfl⟩, rfl⟩, by simp [new], by simp⟩) (fun m _ ih keeps => ?_) ms
  · exact (key keeps).2.2
  · obtain ⟨same, sound, results⟩ := ih fun m hm => keeps m (List.mem_append_left _ hm)
    have next := sound_step m sound (fun _ => same.1.1.symm) (by
      rintro r tab rfl
      rw [same.2, Editor.compute_congr same.1])
    refine ⟨agrees_step (keeps m (by simp)) same, next.1, fun x hx => ?_⟩
    rcases List.mem_append.1 hx with hx | hx
    · exact results x hx
    · exact next.2 x (Option.mem_toList.1 hx)

/-- **Meanwhile only the set of the requests read counts**, not the order of the steps. -/
theorem board_congr (hm : ∀ m ∈ ms, Keeps e l m) (hn : ∀ m ∈ ns, Keeps e l m)
    (same : ∀ r, r ∈ ((new e l).readings ms).map Reading.request ↔
      r ∈ ((new e l).readings ns).map Reading.request) :
    ((new e l).run ms).board.published = ((new e l).run ns).board.published ∧
      ((new e l).run ms).board.current = ((new e l).run ns).board.current := by
  have lawful := lawful_run e l ms
  have congr := Reading.newest_shown_congr (g := fun r => r.compute l e e.activeTab)
    (result_of_keeps hm) (result_of_keeps hn)
    (fun x hx x' hx' => lawful.unique (lawful.known x hx) (lawful.known x' hx')) same
  rw [lawful.reflects.published, lawful.reflects.current, (lawful_run e l ns).reflects.published,
    (lawful_run e l ns).reflects.current]
  exact congr

end

end Bench

/-! ## Strips on benches -/

/-- A bench that is as far as a strip beside the editor `e`. -/
structure Bench.Matches (b : Bench) (e : Editor) (s : Strip) : Prop where
  editor : b.editor = e
  layout : b.layout = s.layout
  board : b.board = s.board
  jobs : b.jobs = s.jobs
  waiting : ∀ r ∈ s.worker.mailbox.waiting, r ∈ b.requests
  kept : ∀ r ∈ s.worker.memory, r ∈ b.requests

theorem Strip.after_of_asks {s : Strip} {a : Action} {ds : List Diagnostic} {h : UInt32}
    (asked : s.asks a = some (ds, h)) (e : Editor) : e.after a = e := by
  cases a <;> first | rfl | cases asked

theorem Bench.exists_call {b : Bench} {o : Option Request} (ho : ∀ r ∈ o, r ∈ b.requests) :
    ∃ ms, b.run ms = { b with jobs := b.jobs ++ o.toList.map fun r => { request := r } } ∧
      b.readings ms = [] ∧ ∀ e₀ l, ∀ m ∈ ms, Keeps e₀ l m := by
  rcases o with _ | r
  · exact ⟨[], by simp [run], rfl, by simp⟩
  · obtain ⟨i, hi⟩ := List.mem_iff_getElem?.1 (ho r rfl)
    exact ⟨[.call i], by simp [run, step, call, hi], rfl, by simp [Keeps]⟩

namespace Bench.Matches
variable {e : Editor} {s : Strip} {b : Bench}

theorem request (h : b.Matches e s) (ds : List Diagnostic) (height : UInt32) :
    (b.request ds height).board = s.board.draw.2 ∧
      ⟨s.board.drawn + 1, ds, height⟩ ∈ (b.request ds height).requests ∧
      ∀ r ∈ b.requests, r ∈ (b.request ds height).requests := by
  rw [← h.board]
  exact ⟨rfl, List.mem_append_right _ (List.mem_singleton.2 rfl),
    fun r hr => List.mem_append_left _ hr⟩

theorem first (h : b.Matches e s) {r : Request} {rest : List Request}
    (first : s.worker.mailbox.waiting = r :: rest) :
    r ∈ b.requests ∧ ∀ r' ∈ rest, r' ∈ b.requests :=
  List.forall_mem_cons.1 (first ▸ h.waiting)

theorem proceed (h : b.Matches e s) {k : Nat} {j : Job} (at_k : s.jobs[k]? = some j)
    (under_way : j.answer? = none) :
    b.proceed k = { b with
      board := (j.proceed s.layout e s.board).2
      jobs := s.jobs.set k (j.proceed s.layout e s.board).1 } := by
  rw [Bench.proceed_of_under_way (h.jobs ▸ at_k) under_way, h.layout, h.editor, h.board, h.jobs]

end Bench.Matches

/-- **Whatever a strip does can be done by hand.** -/
theorem Turn.exists_moves {e : Editor} {s v : Strip} {a : Action} {x : Option Reading}
    {y : Option Ending} {fx : List Effect} {b : Bench} (turn : Turn e s a x y v fx)
    (h : b.Matches e s) :
    ∃ ms, (b.run ms).Matches (e.after a) v ∧ b.readings ms = x.toList ∧
      ∀ e₀ l, e₀.Keeps a → ∀ m ∈ ms, Bench.Keeps e₀ l m := by
  cases turn with
  | @accepted a ds height asked room =>
    obtain ⟨board, new, old⟩ := h.request ds height
    rw [Strip.after_of_asks asked]
    refine ⟨[.request ds height], ⟨h.editor, h.layout, board, h.jobs, fun r hr => ?_,
      fun r hr => old r (h.kept r hr)⟩, rfl, by simp [Bench.Keeps]⟩
    rcases List.mem_append.1 hr with hr | hr
    · exact old r (h.waiting r hr)
    · exact List.mem_singleton.1 hr ▸ new
  | @refused a ds height why asked full =>
    obtain ⟨board, -, old⟩ := h.request ds height
    rw [Strip.after_of_asks asked]
    exact ⟨[.request ds height], ⟨h.editor, h.layout, board, h.jobs,
      fun r hr => old r (h.waiting r hr), fun r hr => old r (h.kept r hr)⟩, rfl,
      by simp [Bench.Keeps]⟩
  | @dispatched r rest window alive first =>
    obtain ⟨hr, hrest⟩ := h.first first
    obtain ⟨ms, run, quiet, keeps⟩ := Bench.exists_call (o := some r) fun _ h' =>
      Option.some.inj h' ▸ hr
    refine ⟨ms, ?_, quiet, fun e₀ l _ => keeps e₀ l⟩
    rw [run]
    exact ⟨h.editor, h.layout, h.board, by rw [h.jobs]; rfl, hrest, h.kept⟩
  | kept window alive first | replaced window alive first =>
    obtain ⟨hr, hrest⟩ := h.first first
    exact ⟨[], ⟨h.editor, h.layout, h.board, h.jobs, hrest, fun _ h' => Option.some.inj h' ▸ hr⟩,
      rfl, by simp⟩
  | outrun window alive first held early =>
    exact ⟨[], ⟨h.editor, h.layout, h.board, h.jobs, (h.first first).2,
      fun r hr => h.kept r (held ▸ hr)⟩, rfl, by simp⟩
  | flushed alive empty due =>
    obtain ⟨ms, run, quiet, keeps⟩ := Bench.exists_call h.kept
    refine ⟨ms, ?_, quiet, fun e₀ l _ => keeps e₀ l⟩
    rw [run]
    exact ⟨h.editor, h.layout, h.board, by rw [h.jobs], nofun, nofun⟩
  | @proceeded t k j place at_k under_way =>
    refine ⟨[.proceed k], ?_, ?_, by simp [Bench.Keeps]⟩
    · show (b.proceed k).Matches e _
      rw [h.proceed at_k under_way]
      exact ⟨h.editor, h.layout, rfl, rfl, h.waiting, h.kept⟩
    · rw [Bench.readings, Bench.reading?_proceed (h.jobs ▸ at_k), h.board]
      exact List.append_nil _
  | @ended t k j answer place at_k answered =>
    have at_k' : b.jobs[k]? = some j := h.jobs ▸ at_k
    refine ⟨[.proceed k], ?_, ?_, by simp [Bench.Keeps]⟩
    · show (b.proceed k).Matches e _
      rw [Bench.proceed_of_answered at_k' answered, h.jobs]
      exact ⟨h.editor, h.layout, h.board, rfl, h.waiting, h.kept⟩
    · rw [Bench.readings, Bench.reading?_proceed at_k', Job.reading?_eq_none answered]
      rfl
  | drained | elapsed =>
    exact ⟨[], ⟨h.editor, h.layout, h.board, h.jobs, h.waiting, h.kept⟩, rfl, by simp⟩
  | still _ idle pointing =>
    cases a with
    | switchTab tab =>
      exact ⟨[.switchTab tab], ⟨by rw [← h.editor]; rfl, h.layout, h.board, h.jobs, h.waiting,
        h.kept⟩, rfl, by simp [Bench.Keeps, Editor.Keeps]⟩
    | setDocument tab d =>
      exact ⟨[.setDocument tab d], ⟨by rw [← h.editor]; rfl, h.layout, h.board, h.jobs, h.waiting,
        h.kept⟩, rfl, by simp [Bench.Keeps, Editor.Keeps]⟩
    | _ => exact ⟨[], ⟨h.editor, h.layout, h.board, h.jobs, h.waiting, h.kept⟩, rfl, by simp⟩

/-- The layout that a strip with these settings uses. -/
def Settings.layout (σ : Settings) : Layout := ⟨σ.metrics, σ.lineOffset⟩

namespace Session

/-- A result that was computed at one time over the tab that was active at an earlier time. -/
def Computed (s : Session) (as : List Action) (r : Request)
    (result : Except ReadFailure (List Marker)) : Prop :=
  ∃ early late, early <+: late ∧ late <+: as ∧
    result = r.compute s.strip.layout (s.run late).1.editor (s.run early).1.editor.activeTab

section
variable (e : Editor) (σ : Settings) (h : UInt32) (available : Bool) (as : List Action)

/-- **Every run of a strip is one of a bench**, and it leaves the editor alone where the strip's
    does. -/
theorem exists_bench_run :
    let s := (start e σ h available).1
    let b := Bench.new e σ.layout
    ∃ ms, (b.run ms).Matches (s.run as).1.editor (s.run as).1.strip ∧
      b.readings ms = s.readings as ∧
      ((∀ a ∈ as, e.Keeps a) → ∀ m ∈ ms, Bench.Keeps e σ.layout m) := by
  intro s b
  refine run_induction (s := s) (P := fun p e' u => ∃ ms, (b.run ms).Matches e' u ∧
    b.readings ms = p.readings ∧
    ((∀ a ∈ p.actions, e.Keeps a) → ∀ m ∈ ms, Bench.Keeps e σ.layout m)) rfl ?_ ?_ as
  · refine ⟨[], ⟨rfl, rfl, rfl, rfl, ?_, nofun⟩, rfl, by simp⟩
    cases available <;> nofun
  · rintro p e' u a x y v fx ⟨ms, same, readings, keeps⟩ turn
    obtain ⟨ns, same', readings', keeps'⟩ := turn.exists_moves same
    refine ⟨ms ++ ns, ?_, ?_, fun hk m hm => ?_⟩
    · rwa [Bench.run, List.foldl_append]
    · rw [Bench.readings_append, readings, readings']
      rfl
    · rcases List.mem_append.1 hm with hm | hm
      · exact keeps (fun a' ha' => hk a' (List.mem_append_left _ ha')) m hm
      · exact keeps' e _ (hk a (by simp [Past.add])) m hm

/-- **Every reading of a strip is of a document in a tab that was active before.** -/
theorem computed_run :
    let s := (start e σ h available).1
    ∀ x ∈ s.readings as, s.Computed as x.request x.result := by
  intro s
  refine exists_computed (fun as => (s.run as).1.editor) (fun _ => s.strip.layout)
    (fun as => (s.run as).1.strip.jobs) rfl rfl (fun as a tabs results jobs ht hr => ?_) as
  have same : (s.run as).1.strip.layout = s.strip.layout := by
    rw [Strip.layout, settings_run]
    rfl
  obtain ⟨jobs', offered⟩ := (turn_run e σ h available as a).sound jobs ht (same ▸ hr)
  rw [run_concat, readings_append, readings, readings, List.append_nil]
  refine ⟨jobs', fun x hx => ?_⟩
  rcases List.mem_append.1 hx with hx | hx
  · exact .inl hx
  · exact .inr (offered x (Option.mem_toList.1 hx))

/-- **A strip always shows what its readings so far came to.** -/
theorem reflects_run :
    let s := (start e σ h available).1
    (s.run as).1.strip.board.Reflects (s.readings as) := by
  obtain ⟨ms, same, readings, -⟩ := exists_bench_run e σ h available as
  have := (Bench.lawful_run e σ.layout ms).reflects
  rwa [same.board, readings] at this

end

section
variable {e : Editor} {σ : Settings} {h : UInt32} {available : Bool} {as bs : List Action}

/-- **While nothing is changed in the editor, only the set of the requests read counts.** -/
theorem board_congr (ha : ∀ a ∈ as, e.Keeps a) (hb : ∀ a ∈ bs, e.Keeps a)
    (same : ∀ r, r ∈ ((start e σ h available).1.readings as).map Reading.request ↔
      r ∈ ((start e σ h available).1.readings bs).map Reading.request) :
    let s := (start e σ h available).1
    (s.run as).1.strip.board.published = (s.run bs).1.strip.board.published ∧
      (s.run as).1.strip.board.current = (s.run bs).1.strip.board.current := by
  obtain ⟨ms, hm, readings, keeps⟩ := exists_bench_run e σ h available as
  obtain ⟨ns, hn, readings', keeps'⟩ := exists_bench_run e σ h available bs
  have congr := Bench.board_congr (keeps ha) (keeps' hb) (by rw [readings, readings']; exact same)
  rwa [hm.board, hn.board] at congr

end

end Session

/-! ## Late results never win -/

/-- What a board, known after each history of some actions, owes to the readings offered to it. -/
structure LateNeverWins {α : Type} (board : List α → Board) (readings : List α → List Reading)
    (computed : List α → Request → Except ReadFailure (List Marker) → Prop) (keeps : α → Prop) :
    Prop where
  /-- What is on show is the first reading of the latest request that could be read. -/
  reflects : ∀ as, (board as).Reflects (readings as)
  /-- A reading is the layout of a document, or a failure to read it. -/
  computed : ∀ as, ∀ x ∈ readings as, computed as x.request x.result
  /-- An action offers at most one reading; none goes back, or heeds a late one. -/
  guards : ∀ as a, ∃ x : Option Reading, readings (as ++ [a]) = readings as ++ x.toList ∧
    (board as).Guards x (board (as ++ [a]))
  /-- While nothing else changes, the order of the actions does not matter. -/
  order : ∀ as bs, (∀ a ∈ as, keeps a) → (∀ a ∈ bs, keeps a) →
    (∀ r, r ∈ (readings as).map Reading.request ↔ r ∈ (readings bs).map Reading.request) →
    (board as).published = (board bs).published ∧ (board as).current = (board bs).current

/-- **Late results never win**, neither on a strip nor on a bench, and the jobs of a strip end with
    the answers that their readings got. -/
theorem late_results_never_win (e : Editor) (σ : Settings) (h : UInt32) (available : Bool)
    (l : Layout) :
    let s := (Session.start e σ h available).1
    let b := Bench.new e l
    LateNeverWins (fun as => (s.run as).1.strip.board) s.readings s.Computed e.Keeps ∧
    LateNeverWins (fun ms => (b.run ms).board) b.readings b.Computed (Bench.Keeps e l) ∧
    ∀ as, ∀ y ∈ s.endings as, ∃ x ∈ s.readings as, x.request = y.request ∧ x.answer = y.answer := by
  intro s b
  refine ⟨⟨Session.reflects_run e σ h available, Session.computed_run e σ h available,
    fun as a => ⟨(s.run as).1.strip.reading? a, ?_, ?_⟩, fun as bs => Session.board_congr⟩,
    ⟨fun ms => (Bench.lawful_run e l ms).reflects, Bench.computed_run e l,
    fun ms m => ⟨(b.run ms).reading? m, Bench.readings_concat b ms m, ?_⟩,
    fun ms ns => Bench.board_congr⟩, fun as => (Session.explains_run e σ h available as).endings⟩
  · rw [Session.readings_append, Session.readings, Session.readings, List.append_nil]
  · rw [Session.run_concat]
    exact (Session.turn_run e σ h available as a).guards
  · rw [Bench.run_concat]
    exact Bench.guards_step _ m

/-- A late reading may fail instead of giving way. -/
theorem late_readings_may_fail :
    ¬ ∀ (e : Editor) (l : Layout) (ms : List Move) (m : Move) (x : Reading),
      ((Bench.new e l).run ms).reading? m = some x →
      x.ticket ≤ ((Bench.new e l).run ms).board.published →
      x.answer = .ok (.superseded ((Bench.new e l).run ms).board.published) := by
  intro claim
  have := claim { documents := [(0, some (.text "a"))] } {}
    [.request [] 100, .request [] 100, .call 0, .call 1, .proceed 1, .proceed 1, .proceed 1,
      .setDocument 0 none, .proceed 0, .proceed 0] (.proceed 0)
    ⟨⟨1, [], 100⟩, .error (.unreadable 0 "no document in tab 0"),
      .error (.unreadable 0 "no document in tab 0")⟩ rfl (by decide)
  cases this

end MarkerStrip
