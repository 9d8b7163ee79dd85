/-
  What the user sees is up to date.

  The editor paints the markers of the moment when it is told to.  Between a
  change of the board and the repaint that it calls for lie the end of a job,
  a list of events and the call that drains it, and the next change may come
  before; the text is not even repainted for every change.

  * `Screen` is what was painted last, and `Session.screen` what it is after a
    run;
  * `Strip.due` are the repaints that are still to come; `Strip.UpToDate`:
    where none is, the screen shows what the board does.
-/
import MarkerStrip.Proofs.Newest

namespace MarkerStrip

/-! ## Screens -/

/-- What was painted last: the markers on the strip, and the offsets of those beside the text. -/
structure Screen where
  strip : List Marker := []
  text : List UInt32 := []

/-- The screen after an effect, which paints what the board shows. -/
def Screen.paint (b : Board) (c : Screen) : Effect → Screen
  | .call .repaintStrip => { c with strip := b.current }
  | .call .repaintText => { c with text := b.current.map Marker.y }
  | _ => c

namespace Screen

def paintAll (c : Screen) (b : Board) (fx : List Effect) : Screen := fx.foldl (paint b) c

theorem strip_paintAll (c : Screen) (b : Board) (fx : List Effect) :
    (c.paintAll b fx).strip = if .call .repaintStrip ∈ fx then b.current else c.strip := by
  induction fx generalizing c with
  | nil => rfl
  | cons x fx ih =>
    rw [paintAll, List.foldl_cons, ← paintAll, ih]
    by_cases hx : x = .call .repaintStrip
    · subst hx
      simp [paint]
    · have hp : (paint b c x).strip = c.strip := by
        unfold paint
        split <;> first | rfl | exact absurd rfl hx
      simp [hp, Ne.symm hx]

theorem text_paintAll (c : Screen) (b : Board) (fx : List Effect) :
    (c.paintAll b fx).text =
      if .call .repaintText ∈ fx then b.current.map Marker.y else c.text := by
  induction fx generalizing c with
  | nil => rfl
  | cons x fx ih =>
    rw [paintAll, List.foldl_cons, ← paintAll, ih]
    by_cases hx : x = .call .repaintText
    · subst hx
      simp [paint]
    · have hp : (paint b c x).text = c.text := by
        unfold paint
        split <;> first | rfl | exact absurd rfl hx
      simp [hp, Ne.symm hx]

end Screen

/-! ## Repaints to come -/

/-- The event that a job is about to put into the strip's list. -/
def Job.event? (j : Job) : Option Event := j.answer?.map (.ofAnswer j.request.ticket)

namespace Strip

/-- The events that have not been handed over, those about to come included. -/
def untold (s : Strip) : List Event := s.events ++ s.jobs.filterMap Job.event?

/-- The repaints that are still to come. -/
def due (s : Strip) : List Call := s.untold.flatMap Event.repaints

variable {s : Strip} {z : Event}

theorem mem_untold : z ∈ s.untold ↔ z ∈ s.events ∨ ∃ j ∈ s.jobs, j.event? = some z := by
  rw [untold, List.mem_append, List.mem_filterMap]

theorem mem_due {c : Call} : c ∈ s.due ↔ ∃ z ∈ s.untold, c ∈ z.repaints := List.mem_flatMap

/-- The screen shows what the board does, or a repaint is due. -/
structure UpToDate (s : Strip) (c : Screen) : Prop where
  strip : .repaintStrip ∈ s.due ∨ c.strip = s.board.current
  text : .repaintText ∈ s.due ∨ c.text = s.board.current.map Marker.y

end Strip

theorem Job.event?_eq_none {j : Job} (h : j.answer? = none) : j.event? = none := by
  rw [event?, h, Option.map_none]

variable {e : Editor} {s v : Strip} {a : Action} {x : Option Reading} {y : Option Ending}
  {gx : List Effect}

/-- An event to be told stays so until the repaints that it asks for have been made. -/
theorem Turn.untold_or_painted (turn : Turn e s a x y v gx) {z : Event} (h : z ∈ s.untold) :
    z ∈ v.untold ∨ ∀ c ∈ z.repaints, .call c ∈ gx := by
  rw [Strip.mem_untold] at h ⊢
  cases turn with
  | dispatched | flushed =>
    refine .inl (h.imp_right ?_)
    rintro ⟨j, hj, hz⟩
    exact ⟨j, List.mem_append_left _ hj, hz⟩
  | proceeded place at_k under_way =>
    refine .inl (h.imp_right ?_)
    rintro ⟨j, hj, hz⟩
    refine ⟨j, mem_set_of_ne at_k hj ?_, hz⟩
    rintro rfl
    rw [Job.event?_eq_none under_way] at hz
    cases hz
  | @ended t k j answer place at_k answered =>
    left
    rcases h with h | ⟨i, hi, hz⟩
    · exact .inl (List.mem_append_left _ h)
    · rcases List.mem_cons.1 ((perm_eraseIdx at_k).mem_iff.2 hi) with rfl | hi
      · rw [Job.event?, answered] at hz
        exact .inl (List.mem_append_right _ (List.mem_singleton.2 (Option.some.inj hz).symm))
      · exact .inr ⟨i, hi, hz⟩
  | drained =>
    rcases h with h | h
    · refine .inr fun c hc => List.mem_append_right _ (List.mem_map_of_mem ?_)
      exact List.mem_flatMap.2 ⟨z, h, hc⟩
    · exact .inl (.inr h)
  | _ => exact .inl h

theorem Turn.due_or_painted (turn : Turn e s a x y v gx) {c : Call} (h : c ∈ s.due) :
    c ∈ v.due ∨ .call c ∈ gx := by
  obtain ⟨z, hz, hc⟩ := Strip.mem_due.1 h
  rcases turn.untold_or_painted hz with hz | hp
  · exact .inl (Strip.mem_due.2 ⟨z, hz, hc⟩)
  · exact .inr (hp c hc)

/-- A job whose markers are put on show makes their repaints due. -/
theorem Strip.due_of_applied {s : Strip} {k : Nat} {j : Job} {r : Request} {moved : Bool}
    {jobs : List Job} (at_k : jobs[k]? = some j)
    (hs : s.jobs = jobs.set k ⟨r, .answered (.ok (.applied moved))⟩) :
    .repaintStrip ∈ s.due ∧ (moved = true → .repaintText ∈ s.due) := by
  have hz : .published r.ticket moved ∈ s.untold := by
    refine mem_untold.2 (.inr ⟨_, hs ▸ List.mem_set ?_ _, rfl⟩)
    exact (List.getElem?_eq_some_iff.1 at_k).1
  refine ⟨mem_due.2 ⟨_, hz, List.mem_cons_self ..⟩, ?_⟩
  rintro rfl
  exact mem_due.2 ⟨_, hz, List.mem_cons_of_mem _ (List.mem_cons_self ..)⟩

/-- A change of the board makes a repaint of the strip due, and one of the text unless all markers
    stay where they were. -/
theorem Turn.current_eq_or_due (turn : Turn e s a x y v gx) :
    v.board.current = s.board.current ∨ (.repaintStrip ∈ v.due ∧
      (.repaintText ∈ v.due ∨ v.board.current.map Marker.y = s.board.current.map Marker.y)) := by
  cases turn with
  | @proceeded t k j place at_k under_way =>
    rcases j with ⟨r, _ | tab | (f | ms) | answer⟩
    · exact .inl rfl
    · exact .inl rfl
    · exact .inl rfl
    · simp only [Job.proceed]
      rcases Nat.lt_or_ge s.board.published r.ticket with later | stale
      · rw [Board.absorb_later later]
        obtain ⟨strip, text⟩ := Strip.due_of_applied (s := { s with
            board :=
              { s.board with published := r.ticket, current := ms, previous := s.board.current }
            jobs := s.jobs.set k ⟨r, .answered (.ok (.applied (moved s.board.current ms)))⟩ })
          at_k rfl
        refine .inr ⟨strip, ?_⟩
        by_cases hm : moved s.board.current ms = true
        · exact .inl (text hm)
        · exact .inr ((moved_eq_false_iff ..).1 (eq_false_of_ne_true hm)).symm
      · rw [Board.absorb_stale stale]
        exact .inl rfl
    · cases under_way
  | _ => exact .inl rfl

/-- **A turn leaves the screen up to date**, where it was so before. -/
theorem Turn.upToDate (turn : Turn e s a x y v gx) {c : Screen} (h : s.UpToDate c) :
    v.UpToDate (c.paintAll v.board gx) := by
  constructor
  · rw [Screen.strip_paintAll]
    split
    · exact .inr rfl
    · next unpainted =>
      rcases turn.current_eq_or_due with same | ⟨due, -⟩
      · rw [same]
        exact h.strip.imp_left fun due => (turn.due_or_painted due).resolve_right unpainted
      · exact .inl due
  · rw [Screen.text_paintAll]
    split
    · exact .inr rfl
    · next unpainted =>
      have kept : .repaintText ∈ v.due ∨ v.board.current.map Marker.y =
          s.board.current.map Marker.y := by
        rcases turn.current_eq_or_due with same | ⟨-, due⟩
        · exact .inr (by rw [same])
        · exact due
      rcases kept with due | same
      · exact .inl due
      · rw [same]
        exact h.text.imp_left fun due => (turn.due_or_painted due).resolve_right unpainted

/-! ## Runs -/

namespace Session

/-- The screen after a run, where it was `c` before. -/
def screen (s : Session) (c : Screen) : List Action → Screen
  | [] => c
  | a :: as =>
    (s.step a).1.screen (c.paintAll (s.step a).1.strip.board (s.step a).2) as

theorem screen_concat (s : Session) (c : Screen) (as : List Action) (a : Action) :
    s.screen c (as ++ [a]) = (s.screen c as).paintAll (s.run (as ++ [a])).1.strip.board
      ((s.run as).1.step a).2 := by
  induction as generalizing s c with
  | nil => simp [screen, run, andThen]
  | cons a' as ih =>
    rw [List.cons_append, screen, screen, ih]
    rfl

theorem upToDate_run (e : Editor) (σ : Settings) (h : UInt32) (available : Bool)
    (as : List Action) :
    let s := (start e σ h available).1
    (s.run as).1.strip.UpToDate (s.screen {} as) := by
  intro s
  induction as using List.reverseRecOn with
  | nil => exact ⟨.inr rfl, .inr rfl⟩
  | append_singleton as a ih =>
    rw [screen_concat, run_concat]
    exact (turn_run e σ h available as a).upToDate ih

/-- **With no answer on its way the user sees what the board shows**: on the strip the markers
    themselves, and beside the text their offsets, although it is not repainted every time. -/
theorem screen_eq_current (e : Editor) (σ : Settings) (h : UInt32) (available : Bool)
    (as : List Action) :
    let s := (start e σ h available).1
    (∀ j ∈ (s.run as).1.strip.jobs, j.answer? = none) → (s.run as).1.strip.events = [] →
    (s.screen {} as).strip = (s.run as).1.strip.board.current ∧
      (s.screen {} as).text = (s.run as).1.strip.board.current.map Marker.y := by
  intro s answered drained
  have quiet : (s.run as).1.strip.due = [] := by
    rw [Strip.due, Strip.untold, drained, List.nil_append, List.filterMap_eq_nil_iff.2 fun j hj =>
      Job.event?_eq_none (answered j hj)]
    rfl
  obtain ⟨strip, text⟩ := upToDate_run e σ h available as
  rw [quiet] at strip text
  exact ⟨strip.resolve_left (List.not_mem_nil), text.resolve_left (List.not_mem_nil)⟩

/-- Five updates: the third overtakes the second, the document of the fourth cannot be read, and the
    fifth moves no marker, so that the text is not repainted for it. -/
theorem screen_eq_current_after_update :
    let s := (start { documents := [(0, some (.text "a\nb"))] } {} 100 true).1
    let through (t : Ticket) : List Action := List.replicate 4 (.proceed t)
    let as : List Action := [.update [⟨0, 0, .error, "x"⟩], .work] ++ through 1 ++ [.drain,
      .update [⟨0, 0, .error, "y"⟩], .work, .update [⟨0, 1, .error, "z"⟩], .work] ++ through 3 ++
      through 2 ++ [.drain, .setDocument 0 none, .refresh, .work] ++ through 4 ++
      [.setDocument 0 (some (.text "a\nb")), .update [⟨0, 1, .warning, "z"⟩], .work] ++
      through 5 ++ [.drain]
    (∀ j ∈ (s.run as).1.strip.jobs, j.answer? = none) ∧ (s.run as).1.strip.events = [] ∧
      (s.endings as).map Ending.event = [.published 1 true, .published 3 true, .superseded 2,
        .aborted 4, .published 5 false] ∧
      (s.run as).2.count (.call .repaintStrip) = 3 ∧ (s.run as).2.count (.call .repaintText) = 2 ∧
      (s.screen {} as).strip = (s.run as).1.strip.board.current ∧
      (s.screen {} as).text = (s.run as).1.strip.board.current.map Marker.y :=
  ⟨by decide +kernel, by decide +kernel, by decide +kernel, by decide +kernel, by decide +kernel,
    screen_eq_current _ _ _ _ _ (by decide +kernel) (by decide +kernel)⟩

end Session

end MarkerStrip
