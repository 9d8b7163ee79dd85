/-
  Strips at rest.

  A strip that is left alone comes to rest: the worker empties its mailbox and
  waits for its deadline, and the jobs go on to their ends.

  * `Strip.AtRest`: nothing is left to do;
  * `Session.exists_atRest`: rest can be reached without any doing of the user
    or the editor.
-/
import Mathlib.Algebra.GroupWithZero.Nat
import MarkerStrip.Proofs.Turn

namespace MarkerStrip

/-! ## Rest -/

/-- A request is kept back only while a deadline is set. -/
structure Strip.Timed (s : Strip) : Prop where
  window : s.settings.debounce.toNat = 0 → s.worker.memory = none
  deadline : s.worker.deadline = none → s.worker.memory = none

/-- A strip whose worker takes what it is sent. -/
structure Strip.Working (s : Strip) : Prop where
  alive : s.worker.isAlive = true
  capacity : 0 < s.worker.mailbox.capacity

/-- Nothing is left to do: the worker is idle, its deadline, if any, has come, and no job runs. -/
structure Strip.AtRest (s : Strip) : Prop where
  idle : s.worker.step s.gathering = none
  past : ∀ d, s.worker.deadline = some d → d ≤ s.worker.clock
  jobs : s.jobs = []

instance (s : Strip) : Decidable s.AtRest :=
  decidable_of_iff ((s.worker.step s.gathering).isNone = true ∧
      (∀ d ∈ s.worker.deadline, d ≤ s.worker.clock) ∧ s.jobs.isEmpty = true)
    ⟨fun h => ⟨Option.isNone_iff_eq_none.1 h.1, h.2.1, List.isEmpty_iff.1 h.2.2⟩,
      fun h => ⟨Option.isNone_iff_eq_none.2 h.idle, h.past, List.isEmpty_iff.2 h.jobs⟩⟩

section
variable {e : Editor} {s v : Strip} {a : Action} {x : Option Reading} {y : Option Ending}
  {fx : List Effect}

theorem Turn.timed (turn : Turn e s a x y v fx) (h : s.Timed) : v.Timed := by
  cases turn with
  | dispatched window => exact ⟨h.window, fun _ => h.window window⟩
  | kept window | replaced window | outrun window =>
    exact ⟨fun none => absurd none (Nat.ne_of_gt window), nofun⟩
  | flushed => exact ⟨fun _ => rfl, fun _ => rfl⟩
  | _ => exact ⟨h.window, h.deadline⟩

theorem Turn.working (turn : Turn e s a x y v fx) (h : s.Working) : v.Working := by
  cases turn <;> exact ⟨h.alive, h.capacity⟩

theorem Strip.working_of_hasRoom (room : s.worker.hasRoom = true) : s.Working := by
  simp only [Worker.hasRoom, Bool.and_eq_true, decide_eq_true_eq] at room
  exact ⟨room.1, Nat.lt_of_le_of_lt (Nat.zero_le _) room.2⟩

/-- An idle worker has nothing waiting and no deadline that has come. -/
theorem Strip.Working.of_idle (working : s.Working) (idle : s.worker.step s.gathering = none)
    (sender : s.worker.senderGone = false) :
    s.worker.mailbox.waiting = [] ∧ s.worker.isDue = false := by
  rcases first : s.worker.mailbox.waiting with _ | ⟨r, rs⟩
  · rw [Worker.step_of_nil working.alive first sender] at idle
    refine ⟨rfl, eq_false_of_ne_true fun due => ?_⟩
    rw [if_pos due] at idle
    cases idle
  · rw [Worker.step_of_cons working.alive first] at idle
    cases idle

namespace Strip.AtRest

theorem waiting (rest : s.AtRest) (working : s.Working)
    (sender : s.worker.senderGone = false) : s.worker.mailbox.waiting = [] :=
  (working.of_idle rest.idle sender).1

theorem deadline (rest : s.AtRest) (working : s.Working)
    (sender : s.worker.senderGone = false) : s.worker.deadline = none := by
  have undue := (working.of_idle rest.idle sender).2
  rcases hd : s.worker.deadline with _ | d
  · rfl
  · rw [Worker.isDue, hd] at undue
    exact absurd (rest.past d hd) (of_decide_eq_false undue)

theorem hasRoom (rest : s.AtRest) (working : s.Working)
    (sender : s.worker.senderGone = false) : s.worker.hasRoom = true := by
  rw [Worker.hasRoom, working.alive, rest.waiting working sender]
  exact decide_eq_true working.capacity

end Strip.AtRest

end

/-! ## The way there -/

/-- The actions of the machinery behind a strip. -/
def Action.isBehind : Action → Bool
  | .work | .elapse _ | .proceed _ => true
  | _ => false

namespace Strip

theorem worker_carryOutAll (s : Strip) (vs : List Verdict) :
    (s.carryOutAll vs).1.worker = s.worker := by
  induction vs generalizing s with
  | nil => rfl
  | cons v vs ih =>
    rw [carryOutAll, andThen, ih]
    cases v <;> rfl

theorem worker_work {s : Strip} {r} (h : s.worker.step s.gathering = some r) :
    s.work.1.worker = r.1 := by
  obtain ⟨w, activity, vs⟩ := r
  simp only [work, h, worker_carryOutAll]

end Strip

/-- A bound on the steps that a job has left. -/
def Job.stepsLeft (j : Job) : Nat :=
  match j.stage with
  | .dispatched => 4
  | .started _ => 3
  | .read _ => 2
  | .answered _ => 1

theorem Job.stepsLeft_pos (j : Job) : 0 < j.stepsLeft := by
  rcases j with ⟨r, _ | _ | _ | _⟩ <;> exact Nat.succ_pos _

theorem Job.stepsLeft_proceed_lt {j : Job} (under_way : j.answer? = none) (l : Layout) (e : Editor)
    (b : Board) : (j.proceed l e b).1.stepsLeft < j.stepsLeft := by
  rcases j with ⟨r, _ | _ | _ | _⟩
  · exact Nat.lt_succ_self 3
  · exact Nat.lt_succ_self 2
  · exact Nat.lt_succ_self 1
  · cases under_way

namespace Session

/-- The first job makes a step, and the rest of the strip's work stays as it is. -/
theorem proceed_first {s : Session} {j : Job} {js : List Job} (hj : s.strip.jobs = j :: js) :
    let v := (s.step (.proceed j.request.ticket)).1.strip
    (v.jobs.map Job.stepsLeft).sum < (s.strip.jobs.map Job.stepsLeft).sum ∧
      v.worker = s.strip.worker ∧ v.settings = s.strip.settings := by
  have place : s.strip.place? j.request.ticket = some 0 := by
    simp [Strip.place?, hj, List.findIdx?_cons]
  have at_k : s.strip.jobs[0]? = some j := by rw [hj]; rfl
  simp only [step, onStrip, Strip.proceed, place, Strip.proceedAt, at_k]
  rcases answer : j.answer? with _ | a
  · have fewer := Job.stepsLeft_proceed_lt answer s.strip.layout s.editor s.strip.board
    refine ⟨?_, rfl, rfl⟩
    simp only [hj, List.set_cons_zero, List.map_cons, List.sum_cons]
    omega
  · refine ⟨?_, rfl, rfl⟩
    simp only [Strip.endJob, hj, List.eraseIdx_zero, List.tail_cons, List.map_cons, List.sum_cons]
    exact Nat.lt_add_of_pos_left j.stepsLeft_pos

theorem exists_jobs_eq_nil (s : Session) :
    ∃ as, (∀ a ∈ as, a.isBehind = true) ∧ (s.run as).1.strip.jobs = [] ∧
      (s.run as).1.strip.worker = s.strip.worker ∧
      (s.run as).1.strip.settings = s.strip.settings := by
  induction hn : (s.strip.jobs.map Job.stepsLeft).sum using Nat.strongRecOn generalizing s with
  | _ n ih =>
    rcases hj : s.strip.jobs with _ | ⟨j, js⟩
    · exact ⟨[], by simp, hj, rfl, rfl⟩
    · obtain ⟨fewer, worker, settings⟩ := proceed_first hj
      obtain ⟨as, behind, jobs, worker', settings'⟩ := ih _ (hn ▸ fewer) _ rfl
      exact ⟨.proceed j.request.ticket :: as, List.forall_mem_cons.2 ⟨rfl, behind⟩, jobs,
        worker'.trans worker, settings'.trans settings⟩

theorem exists_idle (s : Session) (sender : s.strip.worker.senderGone = false)
    (working : s.strip.Working) :
    ∃ as, (∀ a ∈ as, a.isBehind = true) ∧
      (s.run as).1.strip.worker.step (s.run as).1.strip.gathering = none ∧
      (s.run as).1.strip.worker.deadline = none := by
  induction hn : s.strip.worker.rank using Nat.strongRecOn generalizing s with
  | _ n ih =>
    -- the clock passes the deadline first, so that a round can be made unless all is done
    let ms := s.strip.worker.deadline.elim 0 fun d => d - s.strip.worker.clock
    let t := (s.step (.elapse ms)).1
    have passed := s.turn_step sender (.elapse ms)
    have sender' : t.strip.worker.senderGone = false := passed.senderGone.trans sender
    rcases hs : t.strip.worker.step t.strip.gathering with _ | r
    · refine ⟨[.elapse ms], by simp [Action.isBehind], hs, ?_⟩
      have undue : (s.strip.worker.elapse ms).isDue = false :=
        ((passed.working working).of_idle hs sender').2
      show s.strip.worker.deadline = none
      rcases hd : s.strip.worker.deadline with _ | d
      · rfl
      · simp only [Worker.isDue, Worker.elapse, hd, Option.any_some, decide_eq_false_iff_not, ms,
          Option.elim_some] at undue
        omega
    · have round := t.turn_step sender' .work
      have fewer : (t.step .work).1.strip.worker.rank < n := by
        show t.strip.work.1.worker.rank < n
        rw [Strip.worker_work hs, ← hn]
        show r.1.rank < t.strip.worker.rank
        exact Worker.rank_step_lt hs
      obtain ⟨as, behind, rest⟩ := ih _ fewer _ (round.senderGone.trans sender')
        (round.working (passed.working working)) rfl
      exact ⟨.elapse ms :: .work :: as, by simpa [Action.isBehind] using behind, rest⟩

/-- **A strip that is left alone can come to rest.** -/
theorem exists_atRest (s : Session) (sender : s.strip.worker.senderGone = false)
    (working : s.strip.Working) :
    ∃ as, (∀ a ∈ as, a.isBehind = true) ∧ (s.run as).1.strip.AtRest := by
  obtain ⟨as, behind, idle, deadline⟩ := s.exists_idle sender working
  obtain ⟨bs, behind', jobs, worker, settings⟩ := (s.run as).1.exists_jobs_eq_nil
  refine ⟨as ++ bs, fun a ha => ?_, ?_⟩
  · exact (List.mem_append.1 ha).elim (behind a) (behind' a)
  · rw [run_append]
    simp only [andThen]
    refine ⟨?_, fun d hd => ?_, jobs⟩
    · rw [Strip.gathering, worker, settings]
      exact idle
    · rw [worker, deadline] at hd
      cases hd

end Session

end MarkerStrip
