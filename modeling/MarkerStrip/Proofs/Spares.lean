/-
  Strips that differ only in computations that fail.

  A strip may lack steps of some computations that another one has made.  As long
  as these computations fail, the two show the same and do the same: nothing but
  their jobs and their events differ, and nothing looks at these but the steps of
  the same computations and the call that hands the events over.

  * `isApart` tells jobs, events, effects, readings and ends of other requests;
  * `Strip.Blind`: operations that look at neither jobs nor events;
  * `Strip.Spares`: two strips that differ in nothing but such computations;
    `Strip.Spares.step`, `Strip.Spares.drain` and `Strip.Spares.proceed` are the
    steps that both make, and `Strip.Spares.drop` is one that is left out.
-/
import MarkerStrip.Proofs.Order

namespace MarkerStrip

/-! ## Lists without some of their elements -/

section
variable {α : Type} {p p' q : α → Bool} {xs ys : List α}

theorem filter_eq_filter_of_imp (h : xs.filter p = ys.filter p)
    (fewer : ∀ a, p' a = true → p a = true) : xs.filter p' = ys.filter p' := by
  have twice (zs : List α) : zs.filter p' = (zs.filter p).filter p' := by
    rw [List.filter_filter]
    refine List.filter_congr fun a _ => ?_
    rcases hp : p' a with _ | _
    · rfl
    · rw [fewer a hp]
      rfl
  rw [twice, twice ys, h]

/-- Replacing or removing the first element of a kind commutes with leaving out others. -/
theorem filter_first (same : ∀ a, q a = true → p a = true) {k : Nat}
    (first : xs.findIdx? q = some k) {b : α} (hb : p b = true) :
    ∃ k', (xs.filter p).findIdx? q = some k' ∧ (xs.filter p)[k']? = xs[k]? ∧
      (xs.set k b).filter p = (xs.filter p).set k' b ∧
      (xs.eraseIdx k).filter p = (xs.filter p).eraseIdx k' := by
  induction xs generalizing k with
  | nil => cases first
  | cons a xs ih =>
    rw [List.findIdx?_cons] at first
    split at first
    · next here =>
      cases first
      have hp := same a here
      exact ⟨0, by simp [hp, List.findIdx?_cons, here], by simp [hp], by simp [hp, hb],
        by simp [hp]⟩
    · next elsewhere =>
      obtain ⟨k, later, rfl⟩ := Option.map_eq_some_iff.1 first
      obtain ⟨k', found, at_k, set, erase⟩ := ih later
      rcases hp : p a with _ | _
      · exact ⟨k', by simp [hp, found], by simp [hp, at_k], by simp [hp, set], by simp [hp, erase]⟩
      · exact ⟨k' + 1, by simp [hp, List.findIdx?_cons, elsewhere, found], by simp [hp, at_k],
          by simp [hp, set], by simp [hp, erase]⟩

/-- What agrees without some elements has the same first element of another kind, and goes on
    agreeing when that is replaced or removed. -/
theorem first_of_filter (same : ∀ a, q a = true → p a = true) (agree : ys.filter p = xs.filter p)
    {k : Nat} (first : xs.findIdx? q = some k) {b : α} (hb : p b = true) :
    ∃ k', ys.findIdx? q = some k' ∧ ys[k']? = xs[k]? ∧
      (ys.set k' b).filter p = (xs.set k b).filter p ∧
      (ys.eraseIdx k').filter p = (xs.eraseIdx k).filter p := by
  obtain ⟨i, found, at_i, set, erase⟩ := filter_first same first hb
  rcases first' : ys.findIdx? q with _ | k'
  · have absent := List.findIdx?_eq_none_iff.1 first'
    obtain ⟨hi, hq, -⟩ := List.findIdx?_eq_some_iff_getElem.1 found
    have here : (xs.filter p)[i] ∈ ys.filter p := by
      rw [agree]
      exact List.getElem_mem hi
    cases (absent _ (List.mem_of_mem_filter here)).symm.trans hq
  · obtain ⟨i', found', at_i', set', erase'⟩ := filter_first same first' hb
    obtain rfl : i' = i :=
      Option.some.inj (found'.symm.trans ((congrArg (List.findIdx? q) agree).trans found))
    refine ⟨k', rfl, ?_, ?_, ?_⟩
    · rw [← at_i', agree, at_i]
    · rw [set', agree, set]
    · rw [erase', agree, erase]

theorem filter_set_of_false {k : Nat} {a b : α} (at_k : xs[k]? = some a) (ha : p a = false)
    (hb : p b = false) : (xs.set k b).filter p = xs.filter p := by
  induction xs generalizing k with
  | nil => rfl
  | cons x xs ih =>
    cases k with
    | zero =>
      cases at_k
      simp [ha, hb]
    | succ k =>
      have rest := ih (by simpa using at_k)
      simp [List.filter_cons, rest]

theorem filter_eraseIdx_of_false {k : Nat} {a : α} (at_k : xs[k]? = some a) (ha : p a = false) :
    (xs.eraseIdx k).filter p = xs.filter p := by
  induction xs generalizing k with
  | nil => rfl
  | cons x xs ih =>
    cases k with
    | zero =>
      cases at_k
      simp [ha]
    | succ k =>
      have rest := ih (by simpa using at_k)
      simp [List.filter_cons, rest]

end

/-! ## Readings that failed -/

theorem Reading.markers?_eq_none {x : Reading} (h : x.markers? = none) :
    ∃ f, x.result = .error f := by
  rcases hx : x.result with f | ms
  · exact ⟨f, rfl⟩
  · rw [markers?, hx] at h
    cases h

theorem Board.take_of_failed {b : Board} {x : Option Reading}
    (failed : ∀ z, x = some z → z.markers? = none) : b.take x = b := by
  rcases x with _ | z
  · rfl
  · obtain ⟨f, hf⟩ := Reading.markers?_eq_none (failed z rfl)
    rw [take, hf]
    rfl

theorem Job.answer_of_failed {j : Job} {b : Board} {x : Reading} {f : ReadFailure}
    (hx : j.reading? b = some x) (failed : x.result = .error f) : x.answer = .error f := by
  rw [Job.answer_eq hx, failed]
  rfl

/-! ## What is apart from them -/

/-- A job of other requests than those in `T`. -/
def Job.isApart (T : List Ticket) (j : Job) : Bool := j.request.ticket ∉ T

/-- An event of other requests than those in `T`. -/
def Event.isApart (T : List Ticket) (z : Event) : Bool := z.ticket ∉ T

/-- An effect that does not tell how the computation for a ticket in `T` ended. -/
def Effect.isApart (T : List Ticket) : Effect → Bool
  | .delivered z => z.isApart T
  | .note (.outdated t _) | .note (.documentUnreadable t _ _) | .note (.computationCrashed t) =>
    t ∉ T
  | _ => true

/-- A reading for other requests than those in `T`. -/
def Reading.isApart (T : List Ticket) (x : Reading) : Bool := x.ticket ∉ T

/-- The end of a job of other requests than those in `T`. -/
def Ending.isApart (T : List Ticket) (y : Ending) : Bool := y.request.ticket ∉ T

theorem Effect.isApart_of_append {T : List Ticket} {t : Ticket} {z : Effect}
    (h : z.isApart (T ++ [t]) = true) : z.isApart T = true := by
  rcases z with _ | (_ | _ | _ | _ | _ | _) | _ | _ | _ <;>
    simp_all [isApart, Event.isApart]

/-- What the editor is asked for. -/
def Effect.call? : Effect → Option Call
  | .call c => some c
  | _ => none

/-- What does not depend on how computations ended is seen without their ends. -/
theorem Effect.filterMap_filter_isApart {β : Type} {g : Effect → Option β} {T : List Ticket}
    (apart : ∀ z, z.isApart T = false → g z = none) (fx : List Effect) :
    (fx.filter (isApart T)).filterMap g = fx.filterMap g := by
  rw [List.filterMap_filter]
  refine List.filterMap_congr fun z _ => ?_
  rcases hz : z.isApart T with _ | _
  · rw [apart z hz]
    rfl
  · rfl

theorem Effect.call?_eq_none {T : List Ticket} {z : Effect} (h : z.isApart T = false) :
    z.call? = none := by
  cases z <;> first | rfl | cases h

theorem Effect.refused?_eq_none {T : List Ticket} {z : Effect} (h : z.isApart T = false) :
    z.refused? = none := by
  rcases z with _ | (_ | _ | _ | _ | _ | _) | _ | _ | _ <;> first | rfl | cases h

/-! ## Two strips -/

/-- The strip `v` is what `u` is but for computations for the tickets in `T`, which fail. -/
structure Strip.Spares (T : List Ticket) (u v : Strip) : Prop where
  same : v = { u with jobs := v.jobs, events := v.events }
  jobs : v.jobs.filter (Job.isApart T) = u.jobs.filter (Job.isApart T)
  events : v.events.filter (Event.isApart T) = u.events.filter (Event.isApart T)
  fewer : v.events.Sublist u.events

/-- An action that neither takes jobs further nor hands events over. -/
def Action.isApart : Action → Bool
  | .proceed _ | .drain => false
  | _ => true

section
variable {T : List Ticket} {u v : Strip} {e : Editor} {t : Ticket}

theorem Strip.Spares.refl (u : Strip) (T : List Ticket) : u.Spares T u := ⟨rfl, rfl, rfl, .refl _⟩

theorem Strip.Spares.mono (h : u.Spares T v) (t : Ticket) : u.Spares (T ++ [t]) v where
  same := h.same
  jobs := filter_eq_filter_of_imp h.jobs fun j hj => by simp_all [Job.isApart]
  events := filter_eq_filter_of_imp h.events fun z hz => by simp_all [Event.isApart]
  fewer := h.fewer

/-- A function on strips that looks at neither jobs nor events, and does nothing to them but add
    some jobs. -/
def Strip.Blind (f : Strip → Strip × List Effect) : Prop :=
  ∀ u, ∃ new, ∀ js zs, f { u with jobs := js, events := zs } =
    ({ (f u).1 with jobs := js ++ new, events := zs }, (f u).2)

namespace Strip.Blind

theorem request : Blind Strip.request := by
  intro u
  refine ⟨[], fun js zs => ?_⟩
  simp only [Strip.request, List.append_nil]
  split <;> rfl

theorem update (ds : List Diagnostic) : Blind fun u => u.update ds :=
  fun u => request { u with latest := ds }

theorem resize (height : UInt32) : Blind fun u => u.resize height := by
  intro u
  by_cases same : u.height = height
  · refine ⟨[], fun js zs => ?_⟩
    simp only [Strip.resize, same, if_true, List.append_nil]
  · obtain ⟨new, frame⟩ := request { u with height }
    refine ⟨new, fun js zs => ?_⟩
    simp only [Strip.resize, same, if_false]
    exact frame js zs

theorem work : Blind Strip.work := by
  intro u
  have gathering (js : List Job) (zs : List Event) :
      Strip.gathering { u with jobs := js, events := zs } = u.gathering := rfl
  simp only [Strip.work, gathering]
  rcases u.worker.step u.gathering with _ | ⟨w, a, vs⟩
  · exact ⟨[], fun js zs => by simp only [List.append_nil]⟩
  · exact ⟨_, fun js zs => by simp only [carryOutAll_eq]; rfl⟩

theorem elapse (ms : Nat) : Blind fun u => (u.elapse ms, []) :=
  fun u => ⟨[], fun js zs => by rw [List.append_nil]; rfl⟩

theorem same (fx : Strip → List Effect)
    (blind : ∀ u js zs, fx { u with jobs := js, events := zs } = fx u) :
    Blind fun u => (u, fx u) :=
  fun u => ⟨[], fun js zs => by
    rw [List.append_nil]
    exact congrArg (Prod.mk _) (blind u js zs)⟩

theorem move (p : Int32) : Blind fun u => u.move p := by
  intro u
  refine ⟨[], fun js zs => ?_⟩
  simp only [Strip.move, Strip.markerAt?, List.append_nil]
  split <;> rfl

end Strip.Blind

/-- What the other actions do depends on neither jobs nor events. -/
theorem Session.exists_blind {a : Action} (apart : a.isApart = true) :
    ∃ f, Strip.Blind f ∧ ∀ s : Session,
      s.step a = (⟨s.editor.after a, (f s.strip).1⟩, (f s.strip).2) := by
  cases a with
  | update ds => exact ⟨_, .update ds, fun _ => rfl⟩
  | refresh => exact ⟨_, .request, fun _ => rfl⟩
  | resize h => exact ⟨_, .resize h, fun _ => rfl⟩
  | work => exact ⟨_, .work, fun _ => rfl⟩
  | elapse ms => exact ⟨_, .elapse ms, fun _ => rfl⟩
  | proceed t => cases apart
  | drain => cases apart
  | click p => exact ⟨_, .same (fun u => u.click p) fun _ _ _ => rfl, fun _ => rfl⟩
  | move p => exact ⟨_, .move p, fun _ => rfl⟩
  | switchTab | setDocument => exact ⟨_, .same (fun _ => []) fun _ _ _ => rfl, fun _ => rfl⟩

theorem Strip.board_of_unread {k : Nat} {j : Job} (place : u.place? t = some k)
    (at_k : u.jobs[k]? = some j) (e : Editor)
    (unread : ∀ x, u.reading? (.proceed t) = some x → x.markers? = none) :
    (j.proceed u.layout e u.board).2 = u.board := by
  rw [j.board_proceed]
  refine Board.take_of_failed fun x hx => unread x ?_
  rw [Strip.reading?, Strip.acted?_proceed place at_k]
  exact hx

namespace Strip.Spares

theorem step {s s' : Session} (h : s.strip.Spares T s'.strip) {a : Action}
    (apart : a.isApart = true) :
    (s.step a).1.strip.Spares T (s'.step a).1.strip ∧ (s'.step a).2 = (s.step a).2 := by
  obtain ⟨f, blind, step⟩ := Session.exists_blind apart
  obtain ⟨new, frame⟩ := blind s.strip
  have there := frame s'.strip.jobs s'.strip.events
  have here := frame s.strip.jobs s.strip.events
  rw [← h.same] at there
  simp only [step, there]
  refine ⟨⟨rfl, ?_, ?_, ?_⟩, trivial⟩
  · rw [here]
    simp only [List.filter_append, h.jobs]
  · rw [here]
    exact h.events
  · rw [here]
    exact h.fewer

/-- Events of computations that fail ask for no repaint. -/
theorem drain (h : u.Spares T v)
    (failed : ∀ z ∈ u.events, z.ticket ∈ T → z = .aborted z.ticket) :
    u.drain.1.Spares T v.drain.1 ∧
      v.drain.2.filter (Effect.isApart T) = u.drain.2.filter (Effect.isApart T) := by
  have repaints (zs : List Event) (failed : ∀ z ∈ zs, z.ticket ∈ T → z = .aborted z.ticket) :
      zs.flatMap Event.repaints = (zs.filter (Event.isApart T)).flatMap Event.repaints := by
    induction zs with
    | nil => rfl
    | cons z zs ih =>
      obtain ⟨first, rest⟩ := List.forall_mem_cons.1 failed
      by_cases hz : z.ticket ∈ T
      · have quiet : z.repaints = [] := by
          rw [first hz]
          rfl
        have dropped : z.isApart T = false := by simp [Event.isApart, hz]
        rw [List.flatMap_cons, quiet, ih rest, List.filter_cons_of_neg (by simp [dropped])]
        rfl
      · have kept : z.isApart T = true := by simp [Event.isApart, hz]
        rw [List.flatMap_cons, ih rest, List.filter_cons_of_pos kept, List.flatMap_cons]
  have delivered (zs : List Event) : (zs.map Effect.delivered).filter (Effect.isApart T) =
      (zs.filter (Event.isApart T)).map Effect.delivered := by
    rw [List.filter_map]
    rfl
  constructor
  · refine ⟨?_, h.jobs, rfl, .slnil⟩
    rw [Strip.drain, h.same]
    rfl
  · simp only [Strip.drain, List.filter_append, delivered, h.events]
    rw [repaints u.events failed, repaints v.events fun z hz => failed z (h.fewer.subset hz),
      h.events]

theorem place?_eq_none (h : u.Spares T v) (ht : t ∉ T) (absent : u.place? t = none) :
    v.place? t = none := by
  rcases place : v.place? t with _ | k
  · rfl
  · obtain ⟨j, -, hj⟩ := exists_of_place? place
    obtain ⟨k', found, -⟩ := first_of_filter (p := Job.isApart T) (b := j)
      (fun i hi => by simp_all [Job.isApart]) h.jobs.symm place (by simp [Job.isApart, hj, ht])
    cases absent.symm.trans found

theorem proceed (h : u.Spares T v) (ht : t ∉ T) (e : Editor) :
    (u.proceed t e).1.Spares T (v.proceed t e).1 ∧ (v.proceed t e).2 = (u.proceed t e).2 ∧
      v.reading? (.proceed t) = u.reading? (.proceed t) ∧
      v.ending? (.proceed t) = u.ending? (.proceed t) := by
  have board : v.board = u.board := by rw [h.same]
  have layout : v.layout = u.layout := by rw [h.same]; rfl
  rcases place : u.place? t with _ | k
  · have place' := h.place?_eq_none ht place
    rw [Strip.proceed_of_absent place, Strip.proceed_of_absent place', Strip.reading?,
      Strip.reading?, Strip.ending?, Strip.ending?, Strip.acted?_proceed_of_absent place,
      Strip.acted?_proceed_of_absent place']
    exact ⟨h, rfl, rfl, rfl⟩
  · obtain ⟨j, at_k, hj⟩ := exists_of_place? place
    have apart (i : Job) (hi : (i.request.ticket == t) = true) : i.isApart T = true := by
      simp_all [Job.isApart]
    have kept (i : Job) (hi : i.request = j.request) : i.isApart T = true :=
      apart i (by rw [hi, hj, beq_self_eq_true])
    have kept' := kept (j.proceed u.layout e u.board).1 (Job.request_proceed ..)
    obtain ⟨k', place', at_k', set, erase⟩ := first_of_filter apart h.jobs place kept'
    have place' : v.place? t = some k' := place'
    rw [at_k] at at_k'
    have acted : v.acted? (.proceed t) = u.acted? (.proceed t) :=
      (Strip.acted?_proceed place' at_k').trans (Strip.acted?_proceed place at_k).symm
    refine and_assoc.1 ⟨?_, by rw [Strip.reading?, Strip.reading?, acted, board],
      by rw [Strip.ending?, Strip.ending?, acted]⟩
    rcases answer : j.answer? with _ | a
    · rw [Strip.proceed_of_under_way place at_k answer,
        Strip.proceed_of_under_way place' at_k' answer, layout, board]
      refine ⟨⟨?_, set, h.events, h.fewer⟩, rfl⟩
      rw [h.same]
    · rw [Strip.proceed_of_answered place at_k answer,
        Strip.proceed_of_answered place' at_k' answer]
      refine ⟨⟨?_, erase, ?_, h.fewer.append_right _⟩, rfl⟩
      · rw [h.same]
      · rw [List.filter_append, List.filter_append, h.events]

theorem drop (h : u.Spares T v) (ht : t ∈ T) (e : Editor)
    (unread : ∀ x, u.reading? (.proceed t) = some x → x.markers? = none) :
    (u.proceed t e).1.Spares T v := by
  have same := h.same
  rcases place : u.place? t with _ | k
  · rw [Strip.proceed_of_absent place]
    exact h
  · obtain ⟨j, at_k, hj⟩ := exists_of_place? place
    have dropped (i : Job) (hi : i.request = j.request) : i.isApart T = false := by
      simp [Job.isApart, hi, hj, ht]
    rcases answer : j.answer? with _ | a
    · have board := Strip.board_of_unread place at_k e unread
      rw [Strip.proceed_of_under_way place at_k answer, board]
      refine ⟨same, ?_, h.events, h.fewer⟩
      rw [filter_set_of_false at_k (dropped j rfl) (dropped _ (Job.request_proceed ..))]
      exact h.jobs
    · rw [Strip.proceed_of_answered place at_k answer]
      refine ⟨same, ?_, ?_, h.fewer.trans (List.sublist_append_left ..)⟩
      · rw [filter_eraseIdx_of_false at_k (dropped j rfl)]
        exact h.jobs
      · have event : (Event.ofAnswer j.request.ticket a).isApart T = false := by
          simp [Event.isApart, hj, ht]
        simp [h.events, event]

theorem step_kept {s s' : Session} (editor : s'.editor = s.editor)
    (h : s.strip.Spares T s'.strip)
    (failed : ∀ z ∈ s.strip.events, z.ticket ∈ T → z = .aborted z.ticket) {a : Action}
    (kept : ∀ t, a = .proceed t → t ∉ T) :
    (s.step a).1.strip.Spares T (s'.step a).1.strip ∧
      (s'.step a).2.filter (Effect.isApart T) = (s.step a).2.filter (Effect.isApart T) ∧
      s'.strip.reading? a = s.strip.reading? a ∧ s'.strip.ending? a = s.strip.ending? a := by
  by_cases apart : a.isApart = true
  · obtain ⟨after, effects⟩ := h.step apart
    refine ⟨after, by rw [effects], ?_⟩
    cases a <;> first | exact ⟨rfl, rfl⟩ | cases apart
  · cases a with
    | proceed t =>
      obtain ⟨after, effects, reading, ending⟩ := h.proceed (kept t rfl) s.editor
      rw [Session.step, Session.step, editor]
      exact ⟨after, congrArg _ effects, reading, ending⟩
    | drain =>
      obtain ⟨after, effects⟩ := h.drain failed
      exact ⟨after, effects, rfl, rfl⟩
    | _ => exact absurd rfl apart

end Strip.Spares

theorem Strip.ticket_of_acted? {j : Job} (h : u.acted? (.proceed t) = some j) :
    j.request.ticket = t := by
  obtain ⟨k, place, at_k⟩ := Option.bind_eq_some_iff.1 h
  obtain ⟨j', at_k', hj⟩ := exists_of_place? place
  obtain rfl := Option.some.inj (at_k.symm.trans at_k')
  exact hj

/-- What a step of a computation offers, and what it ends, is for the request computed. -/
theorem Strip.ticket_of_reading? {x : Reading} (h : u.reading? (.proceed t) = some x) :
    x.ticket = t := by
  obtain ⟨j, acted, hx⟩ := Option.bind_eq_some_iff.1 h
  rw [Reading.ticket, Job.request_eq hx, ticket_of_acted? acted]

theorem Strip.ticket_of_ending? {y : Ending} (h : u.ending? (.proceed t) = some y) :
    y.request.ticket = t := by
  obtain ⟨j, acted, hy⟩ := Option.bind_eq_some_iff.1 h
  obtain ⟨answer, -, rfl⟩ := Option.map_eq_some_iff.1 hy
  exact ticket_of_acted? acted

/-- What a step of a computation shows is about the end of that computation. -/
theorem Strip.effects_proceed (u : Strip) (t : Ticket) (e : Editor) (ht : t ∈ T) :
    (u.proceed t e).2.filter (Effect.isApart T) = [] := by
  rcases place : u.place? t with _ | k
  · rw [Strip.proceed_of_absent place, List.filter_nil]
  · obtain ⟨j, at_k, rfl⟩ := exists_of_place? place
    rcases answer : j.answer? with _ | a
    · rw [Strip.proceed_of_under_way place at_k answer, List.filter_nil]
    · rw [Strip.proceed_of_answered place at_k answer]
      rcases a with (_ | _) | (_ | _) <;> simp [Note.ofAnswer, Effect.isApart, ht]

end

end MarkerStrip
