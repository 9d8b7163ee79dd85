/-
  Where the markers on show come from.

  A list of markers is never put together from several computations: it is what
  one of them came to, for one request, over a document that was read in the
  tab that was active when that computation started.  What a click brings into
  view and what is painted follow from that.

  * `Session.Started` and `Session.Reads` are what a computation has noted and
    come to; `Session.reads_run`: every reading is one;
  * `Session.starts_once`: no computation starts twice;
  * `Board.Comes`: both lists of a board are results of readings, and
    `Turn.comes` its step;
  * `Session.Provenance` collects what follows.
-/
import MarkerStrip.Proofs.Layout
import MarkerStrip.Proofs.Order

namespace MarkerStrip

/-! ## Both lists of a board -/

/-- The lists of a board are empty, or results of the readings `xs`. -/
structure Board.Comes (b : Board) (xs : List Reading) : Prop where
  current : b.published = 0 ∧ b.current = [] ∨
    ∃ x ∈ xs, x.ticket = b.published ∧ x.result = .ok b.current
  previous : b.previous = [] ∨ ∃ x ∈ xs, x.ticket < b.published ∧ x.result = .ok b.previous

namespace Board.Comes
variable {b : Board} {xs : List Reading}

theorem mono {ys : List Reading} (h : b.Comes xs) (sub : ∀ x ∈ xs, x ∈ ys) : b.Comes ys where
  current := h.current.imp_right fun ⟨x, hx, eq⟩ => ⟨x, sub x hx, eq⟩
  previous := h.previous.imp_right fun ⟨x, hx, eq⟩ => ⟨x, sub x hx, eq⟩

theorem take (h : b.Comes xs) (x : Option Reading) : (b.take x).Comes (xs ++ x.toList) := by
  have old : b.Comes (xs ++ x.toList) := h.mono fun y => List.mem_append_left _
  rcases x with _ | z
  · exact old
  · rcases Nat.lt_or_ge b.published z.ticket with later | stale
    · rcases result : z.result with f | ms
      · rw [Board.take, result]
        exact old
      · rw [Board.take, result, absorb_later later]
        refine ⟨.inr ⟨z, List.mem_append_right _ (List.mem_singleton_self z), rfl, result⟩, ?_⟩
        rcases old.current with ⟨-, empty⟩ | ⟨y, hy, ticket, eq⟩
        · exact .inl empty
        · exact .inr ⟨y, hy, ticket ▸ later, eq⟩
    · rw [take_stale stale]
      exact old

end Board.Comes

section
variable {e : Editor} {s v : Strip} {a : Action} {x : Option Reading} {y : Option Ending}
  {fx : List Effect}

/-- **A turn puts no markers on a board but those of its reading.** -/
theorem Turn.comes (turn : Turn e s a x y v fx) {xs : List Reading} (h : s.board.Comes xs) :
    v.board.Comes (xs ++ x.toList) := by
  cases turn with
  | accepted | refused =>
    rw [Option.toList_none, List.append_nil]
    exact ⟨h.current, h.previous⟩
  | proceeded =>
    rw [Job.board_proceed]
    exact h.take _
  | _ =>
    rw [Option.toList_none, List.append_nil]
    exact h

/-! ## The start of a computation -/

theorem Turn.of_isNew (turn : Turn e s a x y v fx) (sender : s.worker.senderGone = false) {j : Job}
    (h : j ∈ v.jobs) (new : j.stage = .dispatched) : j ∈ s.jobs ∨ j.request ∈ s.dispatched a := by
  cases turn with
  | dispatched window alive first =>
    rw [(Strip.work_of_cons alive first).2]
    refine (List.mem_append.1 h).imp_right fun h => ?_
    obtain rfl := List.mem_singleton.1 h
    simp [Strip.gathering, gather, window, Verdict.dispatched?]
  | flushed alive empty due =>
    rw [(Strip.work_of_due sender alive empty due).2]
    refine (List.mem_append.1 h).imp_right fun h => ?_
    obtain ⟨r, hr, rfl⟩ := List.mem_map.1 h
    exact hr
  | @proceeded t k i place at_k under_way =>
    rcases List.mem_or_eq_of_mem_set h with h | rfl
    · exact .inl h
    · rcases i with ⟨r, _ | _ | _ | _⟩ <;> cases new
  | ended => exact .inl (List.mem_of_mem_eraseIdx h)
  | _ => exact .inl h

theorem Strip.eq_proceed_of_acted? {j : Job} (h : s.acted? a = some j) :
    a = .proceed j.request.ticket ∧ ∃ k : Nat, s.place? j.request.ticket = some k ∧
      s.jobs[k]? = some j := by
  cases a with
  | proceed t =>
    obtain ⟨k, place, at_k⟩ := Option.bind_eq_some_iff.1 h
    obtain ⟨j', at_k', rfl⟩ := exists_of_place? place
    obtain rfl := Option.some.inj (at_k.symm.trans at_k')
    exact ⟨rfl, k, place, at_k⟩
  | _ => cases h

end

namespace Session

/-- The action that takes the computation of `r` further starts it after `as`, and notes `tab`. -/
structure StartsAt (s : Session) (as : List Action) (r : Request) (tab : UInt64) : Prop where
  acted : (s.run as).1.strip.acted? (.proceed r.ticket) = some { request := r }
  tab : tab = (s.run as).1.editor.activeTab

/-- In a run the computation of `r` has started, and noted `tab`. -/
def Started (s : Session) (as : List Action) (r : Request) (tab : UInt64) : Prop :=
  ∃ early, early ++ [.proceed r.ticket] <+: as ∧ s.StartsAt early r tab

/-- A result of `r` over a document that was read, after its computation had noted the tab. -/
def Reads (s : Session) (as : List Action) (r : Request)
    (result : Except ReadFailure (List Marker)) : Prop :=
  ∃ tab late, late <+: as ∧ s.Started late r tab ∧
    result = r.compute s.strip.layout (s.run late).1.editor tab

variable {s : Session} {as bs : List Action} {r : Request} {tab : UInt64}

theorem Started.mono (h : s.Started as r tab) (sub : as <+: bs) : s.Started bs r tab := by
  obtain ⟨early, before, starts⟩ := h
  exact ⟨early, before.trans sub, starts⟩

theorem Reads.mono {result : Except ReadFailure (List Marker)} (h : s.Reads as r result)
    (sub : as <+: bs) : s.Reads bs r result := by
  obtain ⟨tab, late, before, eq⟩ := h
  exact ⟨tab, late, before.trans sub, eq⟩

section
variable {e : Editor} {σ : Settings} {h : UInt32} {available : Bool}
  (new : s = (start e σ h available).1)
include new

theorem settings_of_new (as : List Action) :
    (s.run as).1.strip.settings = s.strip.settings := by
  subst new
  rw [settings_run]
  rfl

/-- **Every reading is of the tab that was active when its computation started.** -/
theorem reads_run (as : List Action) :
    (∀ j ∈ (s.run as).1.strip.jobs, j.Sound (s.Started as) (s.Reads as)) ∧
      ∀ x ∈ s.readings as, s.Reads as x.request x.result := by
  induction as using List.reverseRecOn with
  | nil =>
    subst new
    exact ⟨nofun, nofun⟩
  | append_singleton as a ih =>
    have sub : as <+: as ++ [a] := List.prefix_append ..
    have layout : (s.run as).1.strip.layout = s.strip.layout := by
      rw [Strip.layout, Strip.layout, settings_of_new new]
    have starts : ∀ j, (s.run as).1.strip.acted? a = some j → j.stage = .dispatched →
        s.Started (as ++ [a]) j.request (s.run as).1.editor.activeTab := by
      rintro ⟨r, stage⟩ acted rfl
      obtain ⟨rfl, -⟩ := Strip.eq_proceed_of_acted? acted
      exact ⟨as, List.prefix_refl _, acted, rfl⟩
    have reads : ∀ r tab, s.Started as r tab →
        s.Reads (as ++ [a]) r (r.compute (s.run as).1.strip.layout (s.run as).1.editor tab) :=
      fun r tab started => ⟨tab, as, sub, started, by rw [layout]⟩
    obtain ⟨jobs, offered⟩ := (turn_of_new new as a).sound_of_acted ih.1 (fun _ _ h => h.mono sub)
      (fun _ _ h => h.mono sub) starts reads
    rw [run_concat, readings_concat]
    refine ⟨jobs, fun x hx => ?_⟩
    rcases List.mem_append.1 hx with hx | hx
    · exact (ih.2 x hx).mono sub
    · exact (offered x (Option.mem_toList.1 hx)).mono sub

theorem comes_run (as : List Action) : (s.run as).1.strip.board.Comes (s.readings as) := by
  subst new
  exact run_induction (P := fun p _ u => u.board.Comes p.readings) rfl
    ⟨.inl ⟨rfl, rfl⟩, .inl rfl⟩ (fun ih turn => turn.comes ih) as

theorem made_of_dispatched (as : List Action) : ∀ r ∈ s.dispatched as, r ∈ s.made as := by
  intro r hr
  have taken := (gathered_run new as).subset (List.mem_append_left _ hr)
  have queued := List.mem_append_left (s.run as).1.strip.worker.mailbox.waiting taken
  rw [queue_run new] at queued
  exact List.mem_of_mem_filter queued

theorem pairwise_dispatched (as : List Action) :
    (s.dispatched as).Pairwise fun r r' => r.ticket < r'.ticket := by
  have queue := (pairwise_made new as).filter fun r => r.ticket ∉ s.withFate as .refused
  rw [← queue_run new] at queue
  have taken := queue.sublist (List.sublist_append_left ..)
  exact taken.sublist ((List.sublist_append_left ..).trans (gathered_run new as))

theorem made_of_reading (as : List Action) : ∀ x ∈ s.readings as, x.request ∈ s.made as := by
  induction as using List.reverseRecOn with
  | nil => nofun
  | append_singleton as a ih =>
    intro x hx
    rw [made, collect_concat, ← made]
    refine List.mem_append_left _ ?_
    rw [readings_concat] at hx
    rcases List.mem_append.1 hx with hx | hx
    · exact ih x hx
    · obtain ⟨j, acted, read⟩ := Option.bind_eq_some_iff.1 (Option.mem_toList.1 hx)
      obtain ⟨-, k, -, at_k⟩ := Strip.eq_proceed_of_acted? acted
      rw [Job.request_eq read]
      exact made_of_dispatched new as _ (job_of_dispatched new as j (List.mem_of_getElem? at_k))

/-! ## No computation starts twice -/

theorem eq_of_ticket_eq (as : List Action) {i j : Job} (hi : i ∈ (s.run as).1.strip.jobs)
    (hj : j ∈ (s.run as).1.strip.jobs) (same : i.request.ticket = j.request.ticket) : i = j := by
  have nodup : (((s.run as).1.strip.jobs.map Job.request).map Request.ticket).Nodup := by
    subst new
    exact (List.nodup_flatMap.1 (accounts_nodup e σ h available as)).1 .running (by simp)
  rw [List.map_map] at nodup
  exact List.inj_on_of_nodup_map nodup hi hj same

theorem stage_of_started (as : List Action) (started : s.Started as r tab) :
    r ∈ s.dispatched as ∧
      ∀ j ∈ (s.run as).1.strip.jobs, j.request.ticket = r.ticket → j.stage ≠ .dispatched := by
  obtain ⟨early, ⟨later, rfl⟩, starts⟩ := started
  obtain ⟨-, k, place, at_k⟩ := Strip.eq_proceed_of_acted? starts.acted
  induction later using List.reverseRecOn with
  | nil =>
    rw [List.append_nil]
    constructor
    · rw [dispatched, collect_concat, ← dispatched]
      exact List.mem_append_left _ (job_of_dispatched new early _ (List.mem_of_getElem? at_k))
    · intro j hj same waits
      have step := Strip.proceed_of_under_way place at_k rfl (s.run early).1.editor
      have jobs : (s.run (early ++ [.proceed r.ticket])).1.strip.jobs =
          (s.run early).1.strip.jobs.set k ⟨r, .started (s.run early).1.editor.activeTab⟩ := by
        rw [run_concat]
        exact congrArg (fun u => u.1.jobs) step
      have moved : (⟨r, .started (s.run early).1.editor.activeTab⟩ : Job) ∈
          (s.run (early ++ [.proceed r.ticket])).1.strip.jobs := by
        rw [jobs]
        exact List.mem_set (List.getElem?_eq_some_iff.1 at_k).1 _
      rw [eq_of_ticket_eq new _ hj moved same] at waits
      cases waits
  | append_singleton later a ih =>
    have turn := turn_of_new new (early ++ [.proceed r.ticket] ++ later) a
    have sender := sender_of_new new (early ++ [.proceed r.ticket] ++ later)
    have sorted := pairwise_dispatched new (early ++ [.proceed r.ticket] ++ later ++ [a])
    rw [← List.append_assoc]
    rw [dispatched, collect_concat, ← dispatched] at sorted ⊢
    refine ⟨List.mem_append_left _ ih.1, fun j hj same waits => ?_⟩
    rw [run_concat] at hj
    rcases turn.of_isNew sender hj waits with hj | hj
    · exact ih.2 j hj same waits
    · -- a job that is new now has a later ticket than `r`, which was dispatched before
      have := (List.pairwise_append.1 sorted).2.2 r ih.1 j.request hj
      exact Nat.ne_of_lt this same.symm

/-- **A computation starts once.** -/
theorem starts_once {early early' : List Action} {tab' : UInt64}
    (before : early ++ [.proceed r.ticket] <+: as) (before' : early' ++ [.proceed r.ticket] <+: as)
    (starts : s.StartsAt early r tab) (starts' : s.StartsAt early' r tab') : early = early' := by
  -- the later of two starts would find a computation that waits for its start
  have key : ∀ {p q : List Action} {t t' : UInt64}, s.StartsAt p r t → s.StartsAt q r t' →
      p ++ [.proceed r.ticket] <+: q ++ [.proceed r.ticket] → p = q := by
    intro p q t t' first second sub
    rcases List.prefix_concat_iff.1 sub with same | sub
    · exact (List.append_inj' same rfl).1
    · obtain ⟨-, k, -, at_k⟩ := Strip.eq_proceed_of_acted? second.acted
      have started := (stage_of_started new q ⟨p, sub, first⟩).2
      exact absurd rfl (started _ (List.mem_of_getElem? at_k) rfl)
  rcases List.prefix_or_prefix_of_prefix before before' with sub | sub
  · exact key starts starts' sub
  · exact (key starts' starts sub).symm

end

/-! ## What is on show -/

/-- The markers `ms` are what the request `r` came to in `tab`. -/
structure Derived (s : Session) (as : List Action) (r : Request) (tab : UInt64)
    (ms : List Marker) : Prop where
  made : r ∈ s.made as
  /-- They were laid out over a text that was read after the computation of the request had started
      and found `tab` active. -/
  laidOut : ∃ late text, late <+: as ∧ s.Started late r tab ∧
    (s.run late).1.editor.read tab = .ok text ∧ ms = r.layOut s.strip.layout tab text
  places : s.strip.settings.metrics.Places r.diagnostics tab r.height ms
  tabs : ∀ m ∈ ms, m.diagnostic.tab = tab

/-- What is on show after a run `as` that starts in `s`, where `s` is new, and where it comes
    from. -/
structure Provenance (s : Session) (as : List Action) : Prop where
  /-- The markers on show are those of the request whose ticket is, if any is. -/
  current : (s.run as).1.strip.board.published = 0 ∧ (s.run as).1.strip.board.current = [] ∨
    ∃ r tab, r.ticket = (s.run as).1.strip.board.published ∧
      s.Derived as r tab (s.run as).1.strip.board.current
  /-- Those before them are of an earlier request, if there were any. -/
  previous : (s.run as).1.strip.board.previous = [] ∨
    ∃ r tab, r.ticket < (s.run as).1.strip.board.published ∧
      s.Derived as r tab (s.run as).1.strip.board.previous
  /-- A computation starts at one moment, and so it finds one tab active. -/
  once : ∀ r early early' tab tab', early ++ [.proceed r.ticket] <+: as →
    early' ++ [.proceed r.ticket] <+: as → s.StartsAt early r tab → s.StartsAt early' r tab' →
    early = early' ∧ tab = tab'
  /-- A click brings only diagnostics into view that were the last update when the ticket on show
      was drawn. -/
  click : ∀ p d, .call (.scrollTo d) ∈ ((s.run as).1.step (.click p)).2 →
    ∃ before a, before ++ [a] <+: as ∧
      (s.run before).1.strip.board.drawn + 1 = (s.run as).1.strip.board.published ∧
      (s.run (before ++ [a])).1.strip.board.drawn = (s.run as).1.strip.board.published ∧
      d ∈ lastUpdate (before ++ [a])
  /-- Markers are painted in the colour of the severity of their diagnostic, -/
  paint : ∀ width, (s.run as).1.strip.paint width =
    s.strip.settings.background width (s.run as).1.strip.height ::
      if s.strip.settings.markerWidth width == 0 then []
      else (s.run as).1.strip.board.current.map fun m =>
        ⟨⟨s.strip.settings.insetLeft, m.y, s.strip.settings.markerWidth width,
          s.strip.settings.markerHeight⟩, s.strip.settings.colorOf m.diagnostic.severity⟩
  /-- which is the one that the tooltip names. -/
  tooltip : ∀ p text, .call (.setTooltip (some text)) ∈ ((s.run as).1.step (.move p)).2 →
    ∃ m ∈ (s.run as).1.strip.board.current, (s.run as).1.strip.markerAt? p = some m ∧
      text = m.diagnostic.severity.label ++ ": " ++ m.diagnostic.message

end Session

section
variable {s : Strip} {p : Int32}

theorem Strip.mem_of_markerAt? {m : Marker} (h : s.markerAt? p = some m) : m ∈ s.board.current :=
  List.mem_of_find?_eq_some h

theorem Strip.mem_of_scrollTo {d : Diagnostic} (h : .call (.scrollTo d) ∈ s.click p) :
    ∃ m ∈ s.board.current, m.diagnostic = d := by
  unfold click at h
  split at h
  · next m hit =>
    simp only [List.mem_cons, Effect.call.injEq, Call.scrollTo.injEq, reduceCtorEq,
      List.not_mem_nil, or_false] at h
    exact ⟨m, mem_of_markerAt? hit, h.symm⟩
  · simp at h

theorem Strip.markerAt?_of_setTooltip {text : String}
    (h : .call (.setTooltip (some text)) ∈ (s.move p).2) :
    ∃ m, s.markerAt? p = some m ∧ text = m.tooltip := by
  unfold move at h
  split at h
  · next m hit =>
    simp only [List.mem_cons, Effect.call.injEq, Call.setTooltip.injEq, Option.some.injEq,
      reduceCtorEq, List.not_mem_nil, or_false] at h
    exact ⟨m, hit, h⟩
  · split at h <;> simp at h

/-- Markers that keep the severity of their diagnostics are painted in its colour. -/
theorem Strip.paint_of_severity (same : ∀ m ∈ s.board.current, m.severity = m.diagnostic.severity)
    (width : UInt32) :
    s.paint width = s.settings.background width s.height ::
      if s.settings.markerWidth width == 0 then []
      else s.board.current.map fun m => ⟨⟨s.settings.insetLeft, m.y, s.settings.markerWidth width,
        s.settings.markerHeight⟩, s.settings.colorOf m.diagnostic.severity⟩ := by
  have fills : s.board.current.map (s.settings.fill width) = _ :=
    List.map_congr_left fun m hm => by rw [Settings.fill, same m hm]
  rw [paint, Settings.paint, fills]

end

namespace Session
variable {s : Session} {e : Editor} {σ : Settings} {h : UInt32} {available : Bool}
  (new : s = (start e σ h available).1) (as : List Action)
include new

theorem derived_of_reading {x : Reading} (hx : x ∈ s.readings as) {ms : List Marker}
    (result : x.result = .ok ms) : ∃ tab, s.Derived as x.request tab ms := by
  obtain ⟨tab, late, before, started, eq⟩ := (reads_run new as).2 x hx
  rw [result, Request.compute] at eq
  rcases read : (s.run late).1.editor.read tab with f | text
  · rw [read] at eq
    cases eq
  · rw [read] at eq
    obtain rfl := Except.ok.inj eq
    have places : s.strip.settings.metrics.Places x.request.diagnostics tab x.request.height
      (x.request.layOut s.strip.layout tab text) := Metrics.places_place ..
    exact ⟨tab, made_of_reading new as x hx, ⟨late, text, before, started, read, rfl⟩, places,
      fun m hm => (places.tab_eq hm).2⟩

/-- The markers on show come from the request of their ticket. -/
theorem derived_of_current :
    (s.run as).1.strip.board.published = 0 ∧ (s.run as).1.strip.board.current = [] ∨
      ∃ r tab, r.ticket = (s.run as).1.strip.board.published ∧
        s.Derived as r tab (s.run as).1.strip.board.current := by
  refine (comes_run new as).current.imp_right fun ⟨x, hx, ticket, result⟩ => ?_
  obtain ⟨tab, derived⟩ := derived_of_reading new as hx result
  exact ⟨x.request, tab, ticket, derived⟩

end Session

/-- **What is on show comes from one request and one tab**, after any history: computations that
    overlap, fail, come late or are never started leave no trace in it. -/
theorem Session.markers_have_one_origin (e : Editor) (σ : Settings) (h : UInt32)
    (available : Bool) (as : List Action) : (start e σ h available).1.Provenance as := by
  obtain ⟨s, new⟩ : ∃ s, s = (start e σ h available).1 := ⟨_, rfl⟩
  rw [← new]
  have current := derived_of_current new as
  have severity : ∀ m ∈ (s.run as).1.strip.board.current, m.severity = m.diagnostic.severity := by
    intro m hm
    rcases current with ⟨-, empty⟩ | ⟨r, tab, -, derived⟩
    · rw [empty] at hm
      cases hm
    · exact derived.places.severity m hm
  refine ⟨current, ?_, fun r early early' tab tab' before before' starts starts' => ?_,
    fun p d click => ?_, fun width => ?_, fun p text move => ?_⟩
  · refine (comes_run new as).previous.imp_right fun ⟨x, hx, ticket, result⟩ => ?_
    obtain ⟨tab, derived⟩ := derived_of_reading new as hx result
    exact ⟨x.request, tab, ticket, derived⟩
  · obtain rfl := starts_once new before before' starts starts'
    exact ⟨rfl, starts.tab.trans starts'.tab.symm⟩
  · obtain ⟨m, hm, rfl⟩ := Strip.mem_of_scrollTo click
    rcases current with ⟨-, empty⟩ | ⟨r, tab, ticket, derived⟩
    · rw [empty] at hm
      cases hm
    · obtain ⟨before, a, sub, next, drawn, diagnostics, -⟩ :=
        exists_moment_of_made new as r derived.made
      rw [ticket] at next drawn
      exact ⟨before, a, sub, next, drawn, diagnostics ▸ (derived.places.tab_eq hm).1⟩
  · rw [Strip.paint_of_severity severity, settings_of_new new as]
  · obtain ⟨m, hit, rfl⟩ := Strip.markerAt?_of_setTooltip move
    exact ⟨m, Strip.mem_of_markerAt? hit, hit, rfl⟩

end MarkerStrip
