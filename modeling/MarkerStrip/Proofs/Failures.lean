/-
  Computations that fail leave no trace on the board.

  A document that cannot be read puts nothing on show.  So the steps of
  computations that fail can as well be left out of a history: all that is on
  show, all that becomes of other requests and all that the editor is asked to
  repaint stay as they are.  What is missing then is one event and one note for
  each of them that ended.

  * `Script` is a history with marks on the steps to be left out, and
    `Session.Failing` says that the marked steps are those of computations that
    fail;
  * `Session.Spares` says of two histories that they lead to strips that differ
    only in such computations, `Session.spares_run` of a script;
  * `Session.Unnoticed` is what is seen of a script without its marked steps,
    `Session.Vanishes` what one of these would have done, and `Session.Missing` what
    is told only with them.
-/
import MarkerStrip.Proofs.Reports
import MarkerStrip.Proofs.Spares

namespace MarkerStrip

/-! ## Scripts with marks -/

/-- A history, with marks on the actions that are to be left out. -/
abbrev Script := List (Action × Bool)

/-- The ticket whose computation an action takes further. -/
def Action.ticket? : Action → Option Ticket
  | .proceed t => some t
  | _ => none

namespace Script

/-- All actions. -/
def whole (p : Script) : List Action := p.map Prod.fst

/-- The actions that are not left out. -/
def kept (p : Script) : List Action := (p.filter fun x => !x.2).map Prod.fst

/-- The tickets of the computations that the actions left out take further. -/
def dropped (p : Script) : List Ticket := p.filterMap fun x => if x.2 then x.1.ticket? else none

variable (p : Script) (a : Action)

theorem whole_concat (left_out : Bool) : whole (p ++ [(a, left_out)]) = whole p ++ [a] := by
  simp [whole]

theorem kept_concat_false : kept (p ++ [(a, false)]) = kept p ++ [a] := by simp [kept]

theorem kept_concat_true : kept (p ++ [(a, true)]) = kept p := by simp [kept]

theorem whole_append (p q : Script) : whole (p ++ q) = whole p ++ whole q := by simp [whole]

theorem kept_append (p q : Script) : kept (p ++ q) = kept p ++ kept q := by simp [kept]

theorem dropped_concat_false : dropped (p ++ [(a, false)]) = dropped p := by simp [dropped]

theorem dropped_concat_proceed (t : Ticket) :
    dropped (p ++ [(.proceed t, true)]) = dropped p ++ [t] := by
  simp [dropped, Action.ticket?]

end Script

/-! ## Notes of failures -/

/-- How much it matters that a document cannot be read. -/
def ReadFailure.level : ReadFailure → Level
  | unreadable _ _ => .debug
  | crashed => .error

/-- What the log says of a failure. -/
def ReadFailure.note (t : Ticket) : ReadFailure → Note
  | unreadable tab reason => .documentUnreadable t tab reason
  | crashed => .computationCrashed t

theorem ReadFailure.level_note (t : Ticket) (f : ReadFailure) : (f.note t).level = f.level := by
  cases f <;> rfl

theorem Note.ofAnswer_error (t : Ticket) (f : ReadFailure) :
    Note.ofAnswer t (.error f) = [f.note t] := by
  cases f <;> rfl

/-! ## Whole scripts -/

theorem Turn.isAlive {e : Editor} {s v : Strip} {a : Action} {x : Option Reading}
    {y : Option Ending} {fx : List Effect} (turn : Turn e s a x y v fx) :
    v.worker.isAlive = s.worker.isAlive := by
  cases turn <;> rfl

namespace Session

/-- The marked steps of a script are those of computations that fail; with such a step all that
    follow in the same computation are marked. -/
structure Failing (s : Session) (p : Script) : Prop where
  steps : ∀ x ∈ p, x.2 = true → x.1.ticket?.isSome
  failed : ∀ x ∈ s.readings p.whole, x.ticket ∈ p.dropped → x.markers? = none
  rest : p.Pairwise fun x y => x.2 = true → y.1 = x.1 → y.2 = true

theorem Failing.of_prefix {s : Session} {q p : Script} (failing : s.Failing p) (before : q <+: p) :
    s.Failing q := by
  obtain ⟨later, rfl⟩ := before
  refine ⟨fun x hx => failing.steps x (List.mem_append_left _ hx), fun x hx ht => ?_,
    (List.pairwise_append.1 failing.rest).1⟩
  refine failing.failed x ?_ ?_
  · rw [Script.whole_append, readings_append]
    exact List.mem_append_left _ hx
  · rw [Script.dropped, List.filterMap_append]
    exact List.mem_append_left _ ht

/-- A computation of which a step is made has not been left out before. -/
theorem Failing.not_dropped {s : Session} {p : Script} {t : Ticket}
    (failing : s.Failing (p ++ [(.proceed t, false)])) : t ∉ p.dropped := by
  intro ht
  obtain ⟨⟨a, left_out⟩, hx, ha⟩ := List.mem_filterMap.1 ht
  cases left_out with
  | false => cases ha
  | true =>
    have ha : a.ticket? = some t := ha
    have same : a = .proceed t := by
      cases a <;> first | cases ha; rfl | cases ha
    subst same
    cases (List.pairwise_append.1 failing.rest).2.2 _ hx _ (List.mem_singleton.2 rfl) rfl rfl

section
variable {e : Editor} {σ : Settings} {h : UInt32} {available : Bool} {s : Session}
  (new : s = (start e σ h available).1)
include new

theorem answer_of_failed (as : List Action) :
    ∀ x ∈ s.readings as, ∀ f, x.result = .error f → x.answer = .error f := by
  subst new
  refine run_induction (P := fun p _ _ => ∀ x ∈ p.readings, ∀ f, x.result = .error f →
    x.answer = .error f) rfl nofun (fun ih turn x hx f hf => ?_) as
  rcases Past.mem_readings_add.1 hx with old | offered
  · exact ih x old f hf
  · cases turn with
    | proceeded place at_k under_way => exact Job.answer_of_failed offered hf
    | _ => cases offered

theorem explains_of_new (as : List Action) : (s.past as).Explains (s.run as).1.strip := by
  subst new
  exact explains_run e σ h available as

/-- Where a document could not be read, the answer is that failure. -/
theorem failure_of_failed {as : List Action} {T : List Ticket}
    (failed : ∀ x ∈ s.readings as, x.ticket ∈ T → x.markers? = none) {r : Request}
    {answer : Except ReadFailure Outcome} (ht : r.ticket ∈ T)
    (explained : ∃ x ∈ s.readings as, x.request = r ∧ x.answer = answer) :
    ∃ f, answer = .error f ∧ ∃ x ∈ s.readings as, x.request = r ∧ x.result = .error f := by
  obtain ⟨x, hx, rfl, rfl⟩ := explained
  obtain ⟨f, hf⟩ := Reading.markers?_eq_none (failed x hx ht)
  exact ⟨f, answer_of_failed new _ x hx f hf, x, hx, rfl, hf⟩

theorem aborted_of_dropped {p : Script} (failing : s.Failing p) :
    ∀ z ∈ (s.run p.whole).1.strip.events, z.ticket ∈ p.dropped → z = .aborted z.ticket := by
  intro z hz ht
  have events : (s.run p.whole).1.strip.allEvents (s.run p.whole).2 =
      (s.endings p.whole).map Ending.event := by
    subst new
    exact allEvents_eq e σ h available p.whole
  have hz : z ∈ (s.endings p.whole).map Ending.event := by
    rw [← events]
    exact List.mem_append_right _ hz
  obtain ⟨y, hy, rfl⟩ := List.mem_map.1 hz
  rw [Ending.event, Event.ticket_ofAnswer] at ht ⊢
  obtain ⟨f, hf, -⟩ := failure_of_failed new failing.failed ht
    ((explains_of_new new p.whole).endings y hy)
  rw [hf]
  rfl

end

/-- The actions `bs` lead where `as` do, but for computations for the tickets in `T`, which fail. -/
structure Spares (s : Session) (T : List Ticket) (as bs : List Action) : Prop where
  editor : (s.run bs).1.editor = (s.run as).1.editor
  strip : (s.run as).1.strip.Spares T (s.run bs).1.strip
  effects : (s.run bs).2.filter (Effect.isApart T) = (s.run as).2.filter (Effect.isApart T)
  readings : (s.readings bs).filter (Reading.isApart T) =
    (s.readings as).filter (Reading.isApart T)
  endings : (s.endings bs).filter (Ending.isApart T) = (s.endings as).filter (Ending.isApart T)
  fewer : (s.endings bs).Sublist (s.endings as)

namespace Spares
variable {s : Session} {T : List Ticket} {as bs : List Action}

theorem filterMap_effects (spares : s.Spares T as bs) {β : Type} {g : Effect → Option β}
    (apart : ∀ z, z.isApart T = false → g z = none) :
    (s.run bs).2.filterMap g = (s.run as).2.filterMap g := by
  rw [← Effect.filterMap_filter_isApart apart, spares.effects,
    Effect.filterMap_filter_isApart apart]

theorem keep (spares : s.Spares T as bs)
    (failed : ∀ z ∈ (s.run as).1.strip.events, z.ticket ∈ T → z = .aborted z.ticket) {a : Action}
    (kept : ∀ t, a = .proceed t → t ∉ T) : s.Spares T (as ++ [a]) (bs ++ [a]) := by
  obtain ⟨strip, shown, reading, ending⟩ := spares.strip.step_kept spares.editor failed kept
  refine ⟨?_, ?_, ?_, ?_, ?_, ?_⟩
  · rw [run_concat, run_concat, editor_step, editor_step, spares.editor]
  · rw [run_concat, run_concat]
    exact strip
  · rw [run_concat, run_concat, List.filter_append, List.filter_append, spares.effects, shown]
  · rw [readings_concat, readings_concat, List.filter_append, List.filter_append,
      spares.readings, reading]
  · rw [endings_concat, endings_concat, List.filter_append, List.filter_append, spares.endings,
      ending]
  · rw [endings_concat, endings_concat, ending]
    exact spares.fewer.append_right _

theorem drop (spares : s.Spares T as bs) {t : Ticket}
    (unread : ∀ x, (s.run as).1.strip.reading? (.proceed t) = some x → x.markers? = none) :
    s.Spares (T ++ [t]) (as ++ [.proceed t]) bs := by
  have here : t ∈ T ++ [t] := by simp
  refine ⟨?_, ?_, ?_, ?_, ?_, ?_⟩
  · rw [run_concat, editor_step]
    exact spares.editor
  · rw [run_concat]
    exact (spares.strip.mono t).drop here _ unread
  · have hidden := (s.run as).1.strip.effects_proceed t (s.run as).1.editor here
    rw [run_concat, List.filter_append,
      filter_eq_filter_of_imp spares.effects fun z hz => Effect.isApart_of_append hz]
    exact (List.append_nil _).symm.trans (congrArg _ hidden.symm)
  · have hidden : ((s.run as).1.strip.reading? (.proceed t)).toList.filter
        (Reading.isApart (T ++ [t])) = [] := by
      refine List.filter_eq_nil_iff.2 fun x hx => ?_
      simp [Reading.isApart, Strip.ticket_of_reading? (Option.mem_toList.1 hx)]
    rw [readings_concat, List.filter_append, hidden, List.append_nil]
    exact filter_eq_filter_of_imp spares.readings fun x hx => by simp_all [Reading.isApart]
  · have hidden : ((s.run as).1.strip.ending? (.proceed t)).toList.filter
        (Ending.isApart (T ++ [t])) = [] := by
      refine List.filter_eq_nil_iff.2 fun y hy => ?_
      simp [Ending.isApart, Strip.ticket_of_ending? (Option.mem_toList.1 hy)]
    rw [endings_concat, List.filter_append, hidden, List.append_nil]
    exact filter_eq_filter_of_imp spares.endings fun y hy => by simp_all [Ending.isApart]
  · rw [endings_concat]
    exact spares.fewer.trans (List.sublist_append_left ..)

end Spares

theorem proceed_mem_of_mem_endings {s : Session} {as : List Action} {y : Ending}
    (h : y ∈ s.endings as) : .proceed y.request.ticket ∈ as := by
  induction as generalizing s with
  | nil => cases h
  | cons a as ih =>
    rcases List.mem_append.1 h with now | later
    · have now := Option.mem_toList.1 now
      cases a with
      | proceed t =>
        rw [Strip.ticket_of_ending? now]
        exact List.mem_cons_self ..
      | _ => cases now
    · exact List.mem_cons_of_mem _ (ih later)

section
variable {s : Session} {p : Script} {t : Ticket}

theorem Failing.of_dropped (failing : s.Failing (p ++ [(.proceed t, true)])) :
    ∀ x ∈ s.readings (p.whole ++ [.proceed t]), x.ticket ∈ [t] → x.markers? = none := by
  intro x hx ht
  refine failing.failed x ?_ ?_
  · rwa [Script.whole_concat]
  · rw [Script.dropped_concat_proceed]
    exact List.mem_append_right _ ht

theorem Failing.unread (failing : s.Failing (p ++ [(.proceed t, true)])) :
    ∀ x, (s.run p.whole).1.strip.reading? (.proceed t) = some x → x.markers? = none := by
  intro x hx
  refine failing.of_dropped x ?_ (List.mem_singleton.2 (Strip.ticket_of_reading? hx))
  rw [readings_concat]
  exact List.mem_append_right _ (Option.mem_toList.2 hx)

end

/-- What is seen of a script `p` that starts in `s` is what is seen without its marked steps. -/
structure Unnoticed (s : Session) (p : Script) : Prop where
  /-- What is on show, and was before, and all else but for the jobs and the events on their way. -/
  board : (s.run p.kept).1.strip.board = (s.run p.whole).1.strip.board
  strip : (s.run p.kept).1.strip = { (s.run p.whole).1.strip with
    jobs := (s.run p.kept).1.strip.jobs, events := (s.run p.kept).1.strip.events }
  /-- What became of the other computations. -/
  readings : (s.readings p.kept).filter (Reading.isApart p.dropped) =
    (s.readings p.whole).filter (Reading.isApart p.dropped)
  endings : (s.endings p.kept).filter (Ending.isApart p.dropped) =
    (s.endings p.whole).filter (Ending.isApart p.dropped)
  /-- All that the editor is asked for. -/
  calls : (s.run p.kept).2.filterMap Effect.call? = (s.run p.whole).2.filterMap Effect.call?
  /-- And all else that is shown, but for how the computations left out ended. -/
  effects : (s.run p.kept).2.filter (Effect.isApart p.dropped) =
    (s.run p.whole).2.filter (Effect.isApart p.dropped)

/-- What a step in the computation for `t`, which fails, does to a session after the readings `xs`:
    nothing that is seen until the computation ends, and then one event and one note. -/
structure Vanishes (s : Session) (xs : List Reading) (t : Ticket) : Prop where
  board : (s.step (.proceed t)).1.strip.board = s.strip.board
  worker : (s.step (.proceed t)).1.strip.worker = s.strip.worker
  /-- Before the end all requests stay in hand. -/
  silent : s.strip.ending? (.proceed t) = none →
    (s.step (.proceed t)).1.strip.jobs.map Job.request = s.strip.jobs.map Job.request ∧
      (s.step (.proceed t)).1.strip.events = s.strip.events ∧ (s.step (.proceed t)).2 = []
  /-- The end tells that the computation came to nothing, and notes why. -/
  told : ∀ y, s.strip.ending? (.proceed t) = some y → ∃ f,
    (∃ x ∈ xs, x.request = y.request ∧ x.result = .error f) ∧
      y.request.ticket = t ∧ y.answer = .error f ∧
      (s.step (.proceed t)).1.strip.events = s.strip.events ++ [.aborted t] ∧
      (s.step (.proceed t)).2 = [.note (f.note t)] ∧ (f.note t).level = f.level

/-- What is told of the computation for `t`, which fails by `f`, in a script `p` and without the
    marked steps. -/
structure Missing (s : Session) (p : Script) (t : Ticket) (f : ReadFailure) : Prop where
  reading : ∃ x ∈ s.readings p.whole, x.ticket = t ∧ x.result = .error f
  events : s.eventsOf p.whole t = [.aborted t]
  notes : s.notesOf p.whole t = [f.note t]
  level : (f.note t).level = f.level
  /-- Without the marked steps neither the editor nor the log hears of it. -/
  unheard : s.eventsOf p.kept t = [] ∧ s.notesOf p.kept t = []

section
variable {e : Editor} {σ : Settings} {h : UInt32} {available : Bool} {s : Session}
  (new : s = (start e σ h available).1)
include new

/-- **Without the steps of computations that fail all goes on as before.** -/
theorem spares_run {p : Script} (failing : s.Failing p) : s.Spares p.dropped p.whole p.kept := by
  induction p using List.reverseRecOn with
  | nil => exact ⟨rfl, .refl _ _, rfl, rfl, rfl, .refl _⟩
  | append_singleton p x ih =>
    have earlier := failing.of_prefix (List.prefix_append p [x])
    have spares := ih earlier
    obtain ⟨a, _ | _⟩ := x
    · rw [Script.whole_concat, Script.kept_concat_false, Script.dropped_concat_false]
      refine spares.keep (aborted_of_dropped new earlier) ?_
      rintro t rfl
      exact failing.not_dropped
    · obtain ⟨t, rfl⟩ : ∃ t, a = .proceed t := by
        have marked := failing.steps (a, true) (by simp) rfl
        cases a <;> first | exact ⟨_, rfl⟩ | cases marked
      rw [Script.whole_concat, Script.kept_concat_true, Script.dropped_concat_proceed]
      exact spares.drop failing.unread

theorem unnoticed_of_failing {p : Script} (failing : s.Failing p) : s.Unnoticed p := by
  have spares := spares_run new failing
  refine ⟨?_, spares.strip.same, spares.readings, spares.endings, ?_, spares.effects⟩
  · rw [spares.strip.same]
  · exact spares.filterMap_effects fun _ => Effect.call?_eq_none

theorem vanishes_of_failing {p : Script} {t : Ticket}
    (failing : s.Failing (p ++ [(.proceed t, true)])) :
    (s.run p.whole).1.Vanishes (s.readings p.whole) t := by
  have unread := failing.unread
  have step (u : Session) : u.step (.proceed t) =
      (⟨u.editor, (u.strip.proceed t u.editor).1⟩, (u.strip.proceed t u.editor).2) := rfl
  rcases place : (s.run p.whole).1.strip.place? t with _ | k
  · constructor <;>
      simp [step, Strip.proceed_of_absent place, Strip.ending?_proceed_of_absent place]
  · obtain ⟨j, at_k, rfl⟩ := exists_of_place? place
    have ending := Strip.ending?_proceed place at_k
    rcases answer : j.answer? with _ | a
    · have board := Strip.board_of_unread place at_k (s.run p.whole).1.editor unread
      have requests := requests_set at_k (Job.request_proceed j (s.run p.whole).1.strip.layout
        (s.run p.whole).1.editor (s.run p.whole).1.strip.board)
      constructor <;>
        simp [step, Strip.proceed_of_under_way place at_k answer, board, requests, ending, answer]
    · -- the job ends with the answer to a reading of its own, and all of these have failed
      have failed : ∀ x ∈ s.readings p.whole, x.ticket ∈ [j.request.ticket] →
          x.markers? = none := by
        intro x hx
        refine failing.of_dropped x ?_
        rw [readings_concat]
        exact List.mem_append_left _ hx
      have explained := (explains_of_new new p.whole).jobs j (List.mem_of_getElem? at_k) a answer
      obtain ⟨f, rfl, reading⟩ := failure_of_failed new failed (List.mem_singleton.2 rfl) explained
      have ended := Strip.proceed_of_answered place at_k answer (s.run p.whole).1.editor
      rw [Note.ofAnswer_error] at ended
      refine ⟨?_, ?_, fun still => ?_, fun y finished => ?_⟩
      · rw [step, ended]
      · rw [step, ended]
      · rw [ending, answer] at still
        cases still
      · rw [ending, answer] at finished
        obtain rfl := Option.some.inj finished
        refine ⟨f, reading, rfl, rfl, ?_, ?_, f.level_note _⟩ <;> rw [step, ended] <;> rfl

section
variable {p q : Script} {t : Ticket} {y : Ending} (failing : s.Failing p)
  (before : q ++ [(.proceed t, true)] <+: p)
  (ended : (s.run q.whole).1.strip.ending? (.proceed t) = some y)
include failing before ended

/-- A computation whose end is left out does not end in what is kept. -/
theorem endingsOf_kept : s.endingsOf p.kept t = [] := by
  obtain ⟨r, rfl⟩ := before
  refine List.filter_eq_nil_iff.2 fun z hz => ?_
  rw [Script.kept_append, Script.kept_concat_true, endings_append] at hz
  rcases List.mem_append.1 hz with earlier | later
  · -- such an end would be one of the whole script as well, and this computation ends later
    have fewer := (spares_run new (failing.of_prefix
      ((List.prefix_append q _).trans (List.prefix_append _ r)))).fewer
    have nodup := nodup_endings e σ h available (q.whole ++ [.proceed t])
    rw [← new, endings_concat, ended, List.map_append] at nodup
    have other := (List.nodup_append.1 nodup).2.2 _ (List.mem_map_of_mem (fewer.subset earlier)) _
      (List.mem_map_of_mem (List.mem_singleton.2 rfl))
    rw [Strip.ticket_of_ending? ended] at other
    simpa using other
  · -- and no later step of it is kept
    intro same
    have step := proceed_mem_of_mem_endings later
    rw [beq_iff_eq.1 same] at step
    obtain ⟨⟨a, left_out⟩, hx, rfl⟩ := List.mem_map.1 step
    obtain ⟨hx, kept⟩ := List.mem_filter.1 hx
    obtain rfl : left_out = true := (List.pairwise_append.1 failing.rest).2.2 _
      (List.mem_append_right _ (List.mem_singleton.2 rfl)) _ hx rfl rfl
    cases kept

/-- What is told of a computation that fails is missing without its end. -/
theorem missing_of_failing : ∃ f, s.Missing p t f := by
  obtain rfl := Strip.ticket_of_ending? ended
  have none_kept := endingsOf_kept new failing before ended
  have dropped : y.request.ticket ∈ p.dropped := List.mem_filterMap.2
    ⟨_, before.subset (List.mem_append_right _ (List.mem_singleton.2 rfl)), rfl⟩
  have finished : y ∈ s.endings p.whole := by
    obtain ⟨r, rfl⟩ := before
    rw [Script.whole_append, Script.whole_concat, endings_append, endings_concat, ended]
    exact List.mem_append_left _ (List.mem_append_right _ (Option.mem_toList.2 rfl))
  obtain ⟨f, answer, x, hx, request, result⟩ := failure_of_failed new failing.failed dropped
    ((explains_of_new new p.whole).endings y finished)
  obtain ⟨events, notes⟩ := told_of_ended new finished
  have refused : s.withFate p.kept .refused = s.withFate p.whole .refused :=
    (spares_run new failing).filterMap_effects fun _ => Effect.refused?_eq_none
  refine ⟨f, ⟨x, hx, by rw [Reading.ticket, request], result⟩, ?_, ?_, f.level_note _, ?_, ?_⟩
  · rw [events, Ending.event, answer]
    rfl
  · rw [notes, Ending.notes, answer, Note.ofAnswer_error]
  · rw [eventsOf_eq new, none_kept]
    rfl
  · rw [notesOf_eq new, none_kept]
    · rfl
    · rw [refused]
      exact admitted_of_ended new finished

end

theorem isAlive_run (as : List Action) :
    (s.run as).1.strip.worker.isAlive = available := by
  subst new
  exact run_induction (P := fun _ _ u => u.worker.isAlive = available) rfl
    (by cases available <;> rfl) (fun ih turn => turn.isAlive.trans ih) as

theorem waiting_step_work (as : List Action) {r : Request} {rest : List Request}
    (first : (s.run as).1.strip.worker.mailbox.waiting = r :: rest) :
    ((s.run as).1.step .work).1.strip.worker.mailbox.waiting = rest := by
  have alive : (s.run as).1.strip.worker.isAlive = true := by
    cases available with
    | true => exact isAlive_run new as
    | false =>
      subst new
      cases first.symm.trans (dormant_run (e := e) (σ := σ) (h := h) as).1.waiting
  have taken := Strip.worker_work
    (Worker.step_of_cons (h := (s.run as).1.strip.gathering) alive first)
  show (s.run as).1.strip.work.1.worker.mailbox.waiting = rest
  rw [taken]
  rfl

end

/-- **Computations that fail go unnoticed**: without them a strip shows at every moment what it does
    with them, all other computations come to the same, and the editor is asked for the same.  Each
    of them that ends adds one event and one note, and the worker goes on. -/
theorem failures_go_unnoticed (e : Editor) (σ : Settings) (h : UInt32) (available : Bool)
    (p : Script) (failing : (start e σ h available).1.Failing p) :
    let s := (start e σ h available).1
    (∀ q, q <+: p → s.Unnoticed q) ∧
    (∀ (q : Script) t, q ++ [(.proceed t, true)] <+: p →
      (s.run q.whole).1.Vanishes (s.readings q.whole) t ∧
      (((s.run q.whole).1.strip.ending? (.proceed t)).isSome → ∃ f, s.Missing p t f)) ∧
    ((s.endings p.whole).map fun y => y.request.ticket).Nodup ∧
    (s.run p.whole).1.strip.worker.isAlive = available ∧
    ∀ r rest, (s.run p.whole).1.strip.worker.mailbox.waiting = r :: rest →
      ((s.run p.whole).1.step .work).1.strip.worker.mailbox.waiting = rest := by
  intro s
  have new : s = (start e σ h available).1 := rfl
  exact ⟨fun q before => unnoticed_of_failing new (failing.of_prefix before),
    fun q t before => ⟨vanishes_of_failing new (failing.of_prefix before),
      fun ends => (Option.isSome_iff_exists.1 ends).elim fun _ ended =>
        missing_of_failing new failing before ended⟩,
    nodup_endings e σ h available _, isAlive_run new _, fun r rest => waiting_step_work new _⟩

/-- A document that cannot be read, one that is shown, and a crash of which the end is left out. -/
theorem failures_go_unnoticed_update :
    let s := (start { documents := [(0, some (.unreadable "gone" []))] } {} 100 true).1
    let q : Script := [(.update [⟨0, 0, .error, "x"⟩], false), (.work, false), (.proceed 1, false),
      (.proceed 1, true), (.proceed 1, true), (.setDocument 0 (some (.text "a")), false),
      (.update [⟨0, 0, .error, "y"⟩], false), (.work, false), (.proceed 2, false),
      (.proceed 2, false)]
    let r : Script := q ++ [(.proceed 1, true), (.proceed 2, false), (.proceed 2, false),
      (.drain, false), (.setDocument 0 (some .crashing), false), (.refresh, false), (.work, false),
      (.proceed 3, false), (.proceed 3, false), (.proceed 3, false)]
    let p : Script := r ++ [(.proceed 3, true), (.drain, false)]
    s.Failing p ∧ s.Unnoticed p ∧ (s.run p.whole).1.strip.board.published = 2 ∧
      (∃ f, s.Missing p 1 f) ∧ (s.notesOf p.whole 1).map Note.level = [.debug] ∧
      (∃ f, s.Missing p 3 f) ∧ (s.notesOf p.whole 3).map Note.level = [.error] := by
  intro s q r p
  have failing : s.Failing p := ⟨by decide +kernel, by decide +kernel, by decide +kernel⟩
  obtain ⟨unnoticed, missing, -⟩ := failures_go_unnoticed _ _ _ _ p failing
  exact ⟨failing, unnoticed p (List.prefix_refl p), by decide +kernel,
    (missing q 1 (by decide +kernel)).2 (by decide +kernel), by decide +kernel,
    (missing r 3 (by decide +kernel)).2 (by decide +kernel), by decide +kernel⟩

end Session

end MarkerStrip
