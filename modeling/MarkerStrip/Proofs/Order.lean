/-
  Requests in the order of their tickets.

  A request is made with the ticket that it draws, waits in the mailbox, is
  taken out of it, and becomes a job, unless it is refused or set aside on the
  way.  None of these steps lets one request overtake another, and none
  changes what a request carries: the last update and the height of the
  moment in which its ticket was drawn.

  * `Session.made`, `Session.taken` and `Session.dispatched` are the requests
    that come to each of these points in a run, in the order in which they do;
  * `Turn.queue` and `Turn.gathered`: no turn lets a request overtake another;
  * `Session.InOrder` collects what follows for whole runs.
-/
import MarkerStrip.Proofs.Convergence

namespace MarkerStrip

/-! ## Requests on their way -/

/-- The value that is handled in a round. -/
def Activity.event? {ε : Type} : Activity ε → Option ε
  | .received a _ _ _ => some a
  | .flushed _ | .ended => none

/-- The request that is to become a job. -/
def Verdict.dispatched? : Verdict → Option Request
  | .dispatch r => some r
  | .setAside _ => none

/-- What carrying out shows. -/
def Verdict.effect? : Verdict → Option Effect
  | .dispatch _ => none
  | .setAside r => some (.setAside r.ticket)

namespace Strip

/-- Decisions add jobs, and change nothing else. -/
theorem carryOutAll_eq (s : Strip) (vs : List Verdict) :
    s.carryOutAll vs = ({ s with
      jobs := s.jobs ++ (vs.filterMap Verdict.dispatched?).map fun r => { request := r } },
      vs.filterMap Verdict.effect?) := by
  induction vs generalizing s with
  | nil => simp [carryOutAll]
  | cons v vs ih =>
    rw [carryOutAll, andThen, ih]
    cases v <;> simp [carryOut, Verdict.dispatched?, Verdict.effect?, List.filterMap_cons]

/-- The request that an action makes, whether it finds room or not. -/
def made? (s : Strip) (a : Action) : Option Request :=
  (s.asks a).map fun (ds, h) => ⟨s.board.drawn + 1, ds, h⟩

/-- The request that the worker takes out of its mailbox. -/
def taken? (s : Strip) : Action → Option Request
  | .work => (s.worker.step s.gathering).bind fun r => r.2.1.event?
  | _ => none

/-- The requests that become jobs. -/
def dispatched (s : Strip) : Action → List Request
  | .work => (s.worker.step s.gathering).toList.flatMap fun r => r.2.2.filterMap Verdict.dispatched?
  | _ => []

end Strip

namespace Session

/-- What the actions of a run give, each for the strip that it finds. -/
def collect {α : Type} (f : Strip → Action → List α) (s : Session) : List Action → List α
  | [] => []
  | a :: as => f s.strip a ++ (s.step a).1.collect f as

/-- The requests that a run makes. -/
def made (s : Session) : List Action → List Request := s.collect fun u a => (u.made? a).toList

/-- The requests that the worker takes out of its mailbox in a run. -/
def taken (s : Session) : List Action → List Request := s.collect fun u a => (u.taken? a).toList

/-- The requests that become jobs in a run. -/
def dispatched (s : Session) : List Action → List Request := s.collect Strip.dispatched

theorem collect_concat {α : Type} (f : Strip → Action → List α) (s : Session) (as : List Action)
    (a : Action) : s.collect f (as ++ [a]) = s.collect f as ++ f (s.run as).1.strip a := by
  induction as generalizing s with
  | nil => simp [collect, run]
  | cons a' as ih =>
    rw [List.cons_append, collect, collect, ih, List.append_assoc]
    rfl

end Session

/-! ## One turn -/

theorem Effect.eq_of_refused? {z : Effect} {t : Ticket} (h : z.refused? = some t) :
    ∃ why, z = .note (.requestRefused t why) := by
  unfold refused? at h
  split at h
  · cases h
    exact ⟨_, rfl⟩
  · cases h

variable {e : Editor} {s v : Strip} {a : Action} {x : Option Reading} {y : Option Ending}
  {fx : List Effect}

theorem Strip.Idles.asks_eq_none (idle : s.Idles a) : s.asks a = none := by
  cases a with
  | resize h => exact if_pos idle
  | update | refresh => cases idle
  | _ => rfl

theorem Strip.work_of_cons {r : Request} {rest : List Request} (alive : s.worker.isAlive = true)
    (first : s.worker.mailbox.waiting = r :: rest) :
    s.taken? .work = some r ∧ s.dispatched .work =
      (s.gathering.receive s.worker.clock s.worker.deadline r s.worker.memory).2.1.filterMap
        Verdict.dispatched? := by
  have step := Worker.step_of_cons (h := s.gathering) alive first
  constructor
  · simp only [Strip.taken?, step]
    rfl
  · simp only [Strip.dispatched, step, Option.toList_some, List.flatMap_singleton]
    rfl

theorem Strip.work_of_due (sender : s.worker.senderGone = false) (alive : s.worker.isAlive = true)
    (empty : s.worker.mailbox.waiting = []) (due : s.worker.isDue = true) :
    s.taken? .work = none ∧ s.dispatched .work = s.worker.memory.toList := by
  have step := Worker.step_of_nil (h := s.gathering) alive empty sender
  rw [if_pos due] at step
  constructor
  · simp only [Strip.taken?, step]
    rfl
  · simp only [Strip.dispatched, step, Option.toList_some, List.flatMap_singleton]
    show (s.worker.memory.toList.map Verdict.dispatch).filterMap Verdict.dispatched? = _
    rw [List.filterMap_map]
    exact List.filterMap_some

theorem Strip.Idles.no_work (idle : s.Idles a) : s.taken? a = none ∧ s.dispatched a = [] := by
  cases a with
  | work =>
    have step : s.worker.step s.gathering = none := idle
    simp [Strip.taken?, Strip.dispatched, step]
  | _ => exact ⟨rfl, rfl⟩

theorem Strip.no_work_of_asks {ds : List Diagnostic} {h : UInt32}
    (asked : s.asks a = some (ds, h)) : s.taken? a = none ∧ s.dispatched a = [] := by
  cases a <;> first | exact ⟨rfl, rfl⟩ | cases asked

/-- **A turn lets no request overtake another in the mailbox**: what is taken out stood first, and
    what is accepted comes last. -/
theorem Turn.queue (turn : Turn e s a x y v fx) (sender : s.worker.senderGone = false) :
    (s.taken? a).toList ++ v.worker.mailbox.waiting = s.worker.mailbox.waiting ++
      (s.made? a).toList.filter fun r => r.ticket ∉ fx.filterMap Effect.refused? := by
  cases turn with
  | accepted asked room =>
    rw [(Strip.no_work_of_asks asked).1, Strip.made?, asked]
    simp [Worker.enqueue]
  | refused why asked full =>
    rw [(Strip.no_work_of_asks asked).1, Strip.made?, asked]
    simp
  | dispatched window alive first | kept window alive first | replaced window alive first
  | outrun window alive first =>
    rw [(Strip.work_of_cons alive first).1, first]
    simp [Worker.next, Strip.made?, Strip.asks]
  | flushed alive empty due =>
    rw [(Strip.work_of_due sender alive empty due).1, empty]
    rfl
  | still _ idle =>
    rw [idle.no_work.1, Strip.made?, idle.asks_eq_none]
    simp
  | elapsed ms =>
    show s.worker.mailbox.waiting = s.worker.mailbox.waiting ++ []
    rw [List.append_nil]
  | _ => simp [Strip.taken?, Strip.made?, Strip.asks]

/-- **A turn lets no request overtake another in the worker**: what becomes a job had been kept back
    before anything that is taken out now. -/
theorem Turn.gathered (turn : Turn e s a x y v fx) (sender : s.worker.senderGone = false)
    (timed : s.Timed) :
    (s.dispatched a ++ v.worker.memory.toList).Sublist
      (s.worker.memory.toList ++ (s.taken? a).toList) := by
  cases turn with
  | accepted asked | refused why asked =>
    obtain ⟨taken, dispatched⟩ := Strip.no_work_of_asks asked
    rw [taken, dispatched]
    exact List.sublist_append_left ..
  | dispatched window alive first =>
    obtain ⟨taken, dispatched⟩ := Strip.work_of_cons alive first
    rw [taken, dispatched, timed.window window]
    simp [Strip.gathering, gather, window, Verdict.dispatched?, Worker.next]
  | kept window alive first free =>
    obtain ⟨taken, dispatched⟩ := Strip.work_of_cons alive first
    rw [taken, dispatched, free]
    simp [Strip.gathering, gather, Nat.ne_of_gt window, Worker.next]
  | replaced window alive first held later =>
    obtain ⟨taken, dispatched⟩ := Strip.work_of_cons alive first
    rw [taken, dispatched, held]
    simp [Strip.gathering, gather, Nat.ne_of_gt window, Worker.next, later, Verdict.dispatched?]
  | outrun window alive first held early =>
    obtain ⟨taken, dispatched⟩ := Strip.work_of_cons alive first
    rw [taken, dispatched, held]
    simp [Strip.gathering, gather, Nat.ne_of_gt window, Worker.next, Nat.not_lt.2 early,
      Verdict.dispatched?, List.filterMap_cons]
  | flushed alive empty due =>
    obtain ⟨taken, dispatched⟩ := Strip.work_of_due sender alive empty due
    rw [taken, dispatched]
    simp [Worker.next]
  | still _ idle =>
    obtain ⟨taken, dispatched⟩ := idle.no_work
    rw [taken, dispatched]
    exact List.sublist_append_left ..
  | elapsed ms => exact List.sublist_append_left ..
  | _ => simp [Strip.taken?, Strip.dispatched]

theorem Turn.job_dispatched (turn : Turn e s a x y v fx) (sender : s.worker.senderGone = false)
    {j : Job} (h : j ∈ v.jobs) : j.request ∈ s.jobs.map Job.request ++ s.dispatched a := by
  cases turn with
  | dispatched window alive first =>
    rw [(Strip.work_of_cons alive first).2]
    rcases List.mem_append.1 h with h | h
    · exact List.mem_append_left _ (List.mem_map_of_mem h)
    · obtain rfl := List.mem_singleton.1 h
      simp [Strip.gathering, gather, window, Verdict.dispatched?]
  | flushed alive empty due =>
    rw [(Strip.work_of_due sender alive empty due).2]
    rcases List.mem_append.1 h with h | h
    · exact List.mem_append_left _ (List.mem_map_of_mem h)
    · obtain ⟨r, hr, rfl⟩ := List.mem_map.1 h
      exact List.mem_append_right _ hr
  | proceeded place at_k under_way =>
    rw [← requests_set at_k (Job.request_proceed ..)]
    exact List.mem_append_left _ (List.mem_map_of_mem h)
  | ended => exact List.mem_append_left _ (List.mem_map_of_mem (List.mem_of_mem_eraseIdx h))
  | _ => exact List.mem_append_left _ (List.mem_map_of_mem h)

/-- What a request carries is what the strip remembers from then on, and its ticket is the next. -/
theorem Turn.made (turn : Turn e s a x y v fx) {r : Request} (h : s.made? a = some r) :
    r = ⟨v.board.drawn, v.latest, v.height⟩ ∧ v.board.drawn = s.board.drawn + 1 := by
  obtain ⟨⟨ds, height⟩, asked, rfl⟩ := Option.map_eq_some_iff.1 h
  cases turn with
  | accepted asked' | refused why asked' =>
    obtain ⟨rfl, rfl⟩ := Prod.mk.inj (Option.some.inj (asked.symm.trans asked'))
    exact ⟨rfl, rfl⟩
  | still _ idle => cases idle.asks_eq_none.symm.trans asked
  | _ => cases asked

theorem Turn.not_made (turn : Turn e s a x y v fx) (h : s.made? a = none) :
    v.board.drawn = s.board.drawn ∧ v.latest = s.latest ∧ v.height = s.height := by
  have quiet : s.asks a = none := Option.map_eq_none_iff.1 h
  obtain ⟨height, latest, -⟩ := turn.of_quiet quiet
  refine ⟨?_, latest, height⟩
  rw [turn.drawn_eq, quiet]
  rfl

/-! ## Whole runs -/

namespace Session

/-- What holds of the requests of a run `as` that starts in `s`, where `s` is new. -/
structure InOrder (s : Session) (as : List Action) : Prop where
  /-- The tickets of the requests made, accepted or refused, are one, two and so on. -/
  tickets : (s.made as).map Request.ticket = List.range' 1 (s.run as).1.strip.board.drawn
  /-- A request carries the last update and the height of the moment when its ticket is drawn. -/
  moment : ∀ r ∈ s.made as, ∃ before a, before ++ [a] <+: as ∧
    (s.run before).1.strip.board.drawn + 1 = r.ticket ∧
    (s.run (before ++ [a])).1.strip.board.drawn = r.ticket ∧
    r.diagnostics = lastUpdate (before ++ [a]) ∧
    r.height = (s.run (before ++ [a])).1.strip.height
  /-- The strip remembers what the last of them carries, accepted or refused. -/
  newest : (s.made as).getLast? =
    if (s.run as).1.strip.board.drawn = 0 then none
    else some ⟨(s.run as).1.strip.board.drawn, (s.run as).1.strip.latest,
      (s.run as).1.strip.height⟩
  /-- Those taken out of the mailbox, and after them those that wait in it, are the requests that
      were not refused, in the order in which they were made. -/
  queue : s.taken as ++ (s.run as).1.strip.worker.mailbox.waiting =
    (s.made as).filter fun r => r.ticket ∉ s.withFate as .refused
  /-- Their tickets grow. -/
  queue_lt : (s.taken as ++ (s.run as).1.strip.worker.mailbox.waiting).Pairwise
    fun r r' => r.ticket < r'.ticket
  /-- Those that became jobs, and after them the one kept back, had been taken out in that order. -/
  dispatched : (s.dispatched as ++ (s.run as).1.strip.worker.memory.toList).Sublist (s.taken as)
  /-- Their tickets grow. -/
  dispatched_lt : (s.dispatched as).Pairwise fun r r' => r.ticket < r'.ticket
  /-- Every request in hand is one of those made. -/
  inHand : ∀ r, (s.run as).1.strip.InHand r → r ∈ s.made as

section
variable {e : Editor} {σ : Settings} {h : UInt32} {available : Bool} {s : Session}
  (new : s = (start e σ h available).1) (as : List Action)
include new

theorem turn_of_new (a : Action) :
    Turn (s.run as).1.editor (s.run as).1.strip a ((s.run as).1.strip.reading? a)
      ((s.run as).1.strip.ending? a) ((s.run as).1.step a).1.strip ((s.run as).1.step a).2 := by
  subst new
  exact turn_run e σ h available as a

theorem sender_of_new : (s.run as).1.strip.worker.senderGone = false := by
  subst new
  exact senderGone_run e σ h available as

theorem tickets_made :
    (s.made as).map Request.ticket = List.range' 1 (s.run as).1.strip.board.drawn := by
  induction as using List.reverseRecOn with
  | nil =>
    subst new
    rfl
  | append_singleton as a ih =>
    have turn := turn_of_new new as a
    rw [made, collect_concat, ← made, run_concat, List.map_append, ih]
    rcases hr : (s.run as).1.strip.made? a with _ | r
    · rw [(turn.not_made hr).1]
      exact List.append_nil _
    · obtain ⟨hr, drawn⟩ := turn.made hr
      have ticket : r.ticket = (s.run as).1.strip.board.drawn + 1 := by rw [hr, drawn]
      rw [drawn, List.range'_1_concat, Nat.add_comm 1, ← ticket]
      rfl

theorem getLast?_made :
    (s.made as).getLast? =
      if (s.run as).1.strip.board.drawn = 0 then none
      else some ⟨(s.run as).1.strip.board.drawn, (s.run as).1.strip.latest,
        (s.run as).1.strip.height⟩ := by
  induction as using List.reverseRecOn with
  | nil =>
    subst new
    rfl
  | append_singleton as a ih =>
    have turn := turn_of_new new as a
    rw [made, collect_concat, ← made, run_concat]
    rcases hr : (s.run as).1.strip.made? a with _ | r
    · obtain ⟨drawn, latest, height⟩ := turn.not_made hr
      rw [drawn, latest, height, Option.toList_none, List.append_nil]
      exact ih
    · obtain ⟨rfl, drawn⟩ := turn.made hr
      have pos : ((s.run as).1.step a).1.strip.board.drawn ≠ 0 := by
        rw [drawn]
        exact Nat.succ_ne_zero _
      rw [Option.toList_some, List.getLast?_concat, if_neg pos]

/-- Every request was made at one moment of the run, and carries the last update and the height of
    that moment. -/
theorem exists_moment_of_made :
    ∀ r ∈ s.made as, ∃ before a, before ++ [a] <+: as ∧
      (s.run before).1.strip.board.drawn + 1 = r.ticket ∧
      (s.run (before ++ [a])).1.strip.board.drawn = r.ticket ∧
      r.diagnostics = lastUpdate (before ++ [a]) ∧
      r.height = (s.run (before ++ [a])).1.strip.height := by
  induction as using List.reverseRecOn with
  | nil => nofun
  | append_singleton as a ih =>
    intro r hr
    rw [made, collect_concat, ← made] at hr
    rcases List.mem_append.1 hr with hr | hr
    · obtain ⟨before, a', hp, moment⟩ := ih r hr
      exact ⟨before, a', hp.trans (List.prefix_append ..), moment⟩
    · obtain ⟨rfl, drawn⟩ := (turn_of_new new as a).made (Option.mem_toList.1 hr)
      have latest : (s.run (as ++ [a])).1.strip.latest = lastUpdate (as ++ [a]) := by
        subst new
        exact latest_run e σ h available _
      rw [run_concat] at latest
      exact ⟨as, a, List.prefix_refl _, drawn.symm, by rw [run_concat], latest, by rw [run_concat]⟩

theorem pairwise_made : (s.made as).Pairwise fun r r' => r.ticket < r'.ticket := by
  have sorted : List.Pairwise (· < ·) ((s.made as).map Request.ticket) := by
    rw [tickets_made new]
    exact List.pairwise_lt_range'
  exact List.pairwise_map.1 sorted

theorem ticket_le_of_made {r : Request} (hr : r ∈ s.made as) :
    r.ticket ≤ (s.run as).1.strip.board.drawn := by
  have ht : r.ticket ∈ (s.made as).map Request.ticket := List.mem_map_of_mem hr
  rw [tickets_made new, List.mem_range'_1] at ht
  exact Nat.lt_one_add_iff.1 ht.2

theorem ticket_le_of_refused {t : Ticket} (ht : t ∈ s.withFate as .refused) :
    t ≤ (s.run as).1.strip.board.drawn := by
  subst new
  exact ((mem_accounts_iff e σ h available as t).1 (mem_accounts_of_mem ht)).2

/-- A ticket is refused, if at all, when it is drawn. -/
theorem accepted_concat (a : Action) :
    ((s.made (as ++ [a])).filter fun r => r.ticket ∉ s.withFate (as ++ [a]) .refused) =
      ((s.made as).filter fun r => r.ticket ∉ s.withFate as .refused) ++
        ((s.run as).1.strip.made? a).toList.filter fun r =>
          r.ticket ∉ ((s.run as).1.step a).2.filterMap Effect.refused? := by
  have turn := turn_of_new new as a
  have refused : s.withFate (as ++ [a]) .refused = s.withFate as .refused ++
      ((s.run as).1.step a).2.filterMap Effect.refused? := by
    show (s.run (as ++ [a])).2.filterMap Effect.refused? = _
    rw [run_concat, List.filterMap_append]
    rfl
  rw [refused, made, collect_concat, ← made, List.filter_append]
  congr 1
  · refine List.filter_congr fun r hr => ?_
    have old : r.ticket ∉ ((s.run as).1.step a).2.filterMap Effect.refused? := by
      intro ht
      obtain ⟨z, hz, hzt⟩ := List.mem_filterMap.1 ht
      obtain ⟨why, rfl⟩ := Effect.eq_of_refused? hzt
      have := ticket_le_of_made new as hr
      rw [(turn.refusal hz).2.1] at this
      exact Nat.not_succ_le_self _ this
    simp [old]
  · refine List.filter_congr fun r hr => ?_
    obtain ⟨hr, drawn⟩ := turn.made (Option.mem_toList.1 hr)
    have fresh : r.ticket ∉ s.withFate as .refused := by
      intro ht
      have := ticket_le_of_refused new as ht
      rw [hr, drawn] at this
      exact Nat.not_succ_le_self _ this
    simp [fresh]

theorem queue_run :
    s.taken as ++ (s.run as).1.strip.worker.mailbox.waiting =
      (s.made as).filter fun r => r.ticket ∉ s.withFate as .refused := by
  induction as using List.reverseRecOn with
  | nil =>
    subst new
    cases available <;> rfl
  | append_singleton as a ih =>
    have queue := (turn_of_new new as a).queue (sender_of_new new as)
    rw [accepted_concat new, ← ih, taken, collect_concat, ← taken, run_concat, List.append_assoc,
      List.append_assoc, queue]

theorem gathered_run :
    (s.dispatched as ++ (s.run as).1.strip.worker.memory.toList).Sublist (s.taken as) := by
  induction as using List.reverseRecOn with
  | nil =>
    subst new
    exact .slnil
  | append_singleton as a ih =>
    have timed : (s.run as).1.strip.Timed := by
      subst new
      exact timed_run e σ h available as
    have gathered := (turn_of_new new as a).gathered (sender_of_new new as) timed
    rw [dispatched, collect_concat, ← dispatched, taken, collect_concat, ← taken, run_concat,
      List.append_assoc]
    have before := ih.append_right ((s.run as).1.strip.taken? a).toList
    rw [List.append_assoc] at before
    exact (gathered.append_left (s.dispatched as)).trans before

theorem job_of_dispatched :
    ∀ j ∈ (s.run as).1.strip.jobs, j.request ∈ s.dispatched as := by
  induction as using List.reverseRecOn with
  | nil =>
    subst new
    nofun
  | append_singleton as a ih =>
    intro j hj
    rw [run_concat] at hj
    rw [dispatched, collect_concat, ← dispatched]
    have known := (turn_of_new new as a).job_dispatched (sender_of_new new as) hj
    refine List.mem_append.2 ((List.mem_append.1 known).imp_left fun hr => ?_)
    obtain ⟨i, hi, hij⟩ := List.mem_map.1 hr
    exact hij ▸ ih i hi

end

/-- **Requests stay in the order of their tickets**, from the moment when they are made to their
    dispatch, and carry what was asked for at that moment. -/
theorem requests_in_order (e : Editor) (σ : Settings) (h : UInt32) (available : Bool)
    (as : List Action) : (start e σ h available).1.InOrder as := by
  obtain ⟨s, new⟩ : ∃ s, s = (start e σ h available).1 := ⟨_, rfl⟩
  rw [← new]
  have queue := queue_run new as
  have gathered := gathered_run new as
  have queue_lt : (s.taken as ++ (s.run as).1.strip.worker.mailbox.waiting).Pairwise
      fun r r' => r.ticket < r'.ticket := by
    rw [queue]
    exact (pairwise_made new as).filter _
  have made_of_taken : ∀ r ∈ s.taken as, r ∈ s.made as := by
    intro r hr
    have : r ∈ s.taken as ++ (s.run as).1.strip.worker.mailbox.waiting :=
      List.mem_append_left _ hr
    rw [queue] at this
    exact List.mem_of_mem_filter this
  refine ⟨tickets_made new as, exists_moment_of_made new as, getLast?_made new as, queue, queue_lt,
    gathered, ?_, ?_⟩
  · have taken_lt := queue_lt.sublist (List.sublist_append_left ..)
    exact taken_lt.sublist ((List.sublist_append_left ..).trans gathered)
  · rintro r (hr | hr | ⟨j, hj, rfl⟩)
    · have : r ∈ s.taken as ++ (s.run as).1.strip.worker.mailbox.waiting :=
        List.mem_append_right _ hr
      rw [queue] at this
      exact List.mem_of_mem_filter this
    · exact made_of_taken r (gathered.subset (List.mem_append_right _ (Option.mem_toList.2 hr)))
    · exact made_of_taken _
        (gathered.subset (List.mem_append_left _ (job_of_dispatched new as j hj)))

end Session

end MarkerStrip
