/-
  What a worker keeps back, and when it lets go of it.

  A worker with a window keeps one request back and has a deadline for it.
  The two do not change together: a request whose ticket is not the largest is
  set aside, and puts the deadline off all the same.

  * `Diary.recent` are the requests that were handled since the last one was
    let go, and `Diary.quiet` is the time since one was handled at all;
  * `Worker.Keeps` says in these terms what is kept back and until when, and
    `Worker.Keeps.does` that one entry more in the diary keeps it true;
  * `Worker.Slot` is what follows wherever the loop begins anew.
-/
import Mathlib.Data.List.DropRight
import Mathlib.Data.List.MinMax
import MarkerStrip.Proofs.Diary
import MarkerStrip.Proofs.Order

namespace MarkerStrip

namespace Diary

variable {ε : Type} {d : List (Entry ε)} {x : Entry ε}

/-- The values that were handled since what had been put off was done. -/
def recent (d : List (Entry ε)) : List ε := handled (d.rtakeWhile fun x => !x.isFlush)

/-- The time that went by since a value was handled. -/
def quiet (d : List (Entry ε)) : Nat := clock (d.rtakeWhile fun x => x.handled?.isNone)

theorem recent_concat (unflushed : x.isFlush = false) :
    recent (d ++ [x]) = recent d ++ x.handled?.toList := by
  rw [recent, List.rtakeWhile_concat_pos _ _ _ (by rw [unflushed]; rfl), handled_concat, recent]

theorem recent_concat_of_flush (flush : x.isFlush = true) : recent (d ++ [x]) = [] := by
  rw [recent, List.rtakeWhile_concat_neg _ _ _ (by rw [flush]; nofun)]
  rfl

theorem quiet_concat (unhandled : x.handled? = none) : quiet (d ++ [x]) = quiet d + x.ms := by
  rw [quiet, List.rtakeWhile_concat_pos _ _ _ (by rw [unhandled]; rfl), clock_concat, quiet]

theorem quiet_concat_of_handled {e : ε} (handled : x.handled? = some e) :
    quiet (d ++ [x]) = 0 := by
  rw [quiet, List.rtakeWhile_concat_neg _ _ _ (by rw [handled]; nofun)]
  rfl

end Diary

open Diary

/-! ## Gathering -/

section
variable {n : Nat} (window : 0 < n) (now : Nat) (deadline : Option Nat) (r : Request)
include window

theorem gather_receive (kept : Option Request) :
    ((gather n).receive now deadline r kept).2.2 = some (now + n) ∧
      ((gather n).receive now deadline r kept).2.1.filterMap Verdict.dispatched? = [] := by
  have positive : n ≠ 0 := Nat.ne_of_gt window
  rcases kept with _ | k
  · simp [gather, positive]
  · by_cases later : k.ticket < r.ticket
    · simp [gather, positive, later, Verdict.dispatched?]
    · simp [gather, positive, later, Verdict.dispatched?]

/-- Of the requests that have come, the first one with the largest ticket is kept back. -/
theorem gather_receive_argmax (rs : List Request) :
    ((gather n).receive now deadline r (rs.argmax Request.ticket)).1 =
      (rs ++ [r]).argmax Request.ticket := by
  have positive : n ≠ 0 := Nat.ne_of_gt window
  rw [List.argmax_concat]
  rcases rs.argmax Request.ticket with _ | k
  · simp [gather, positive]
  · by_cases later : k.ticket < r.ticket
    · simp [gather, positive, later]
    · simp [gather, positive, later]

end

/-! ## What is kept back -/

namespace Worker

variable {n : Nat} {available : Bool} {d : List (Entry Request)} {x : Entry Request}
  {w v : Worker (Option Request) Request}

/-- What the worker `w` keeps back for a window of `n` milliseconds, and until when, where its diary
    is `d`. -/
structure Keeps (n : Nat) (d : List (Entry Request)) (w : Worker (Option Request) Request) :
    Prop where
  memory : w.memory = (recent d).argmax Request.ticket
  set_iff : w.isAlive = true → (w.deadline.isSome = true ↔ w.memory.isSome = true)
  due : ∀ t, w.deadline = some t → t + quiet d = w.clock + n

namespace Keeps

theorem still (keeps : Keeps n d w) (unhandled : x.handled? = none) (unflushed : x.isFlush = false)
    (memory : v.memory = w.memory) (deadline : v.deadline = w.deadline)
    (clock : v.clock = w.clock + x.ms) (alive : v.isAlive = w.isAlive) : Keeps n (d ++ [x]) v where
  memory := by
    rw [memory, recent_concat unflushed, unhandled, Option.toList_none, List.append_nil]
    exact keeps.memory
  set_iff := by
    rw [memory, deadline, alive]
    exact keeps.set_iff
  due := by
    intro t set
    have before := keeps.due t (deadline ▸ set)
    rw [quiet_concat unhandled, clock]
    omega

/-- **What is kept back, and until when, goes on to be told by the diary.** -/
theorem does (window : 0 < n) (keeps : Keeps n d w) (does : Does (gather n) w x v) :
    Keeps n (d ++ [x]) v := by
  cases does with
  | accepted here sent =>
    obtain ⟨-, rfl⟩ := hasRoom_of_send sent
    exact keeps.still rfl rfl rfl rfl rfl rfl
  | refused why => exact keeps.still rfl rfl rfl rfl rfl rfl
  | abandoned => exact keeps.still rfl rfl rfl rfl rfl rfl
  | elapsed ms => exact keeps.still rfl rfl rfl rfl rfl rfl
  | round step =>
    obtain ⟨alive, round⟩ := round_of_step step
    cases round with
    | @received e rest first =>
      -- Whichever of the two requests is kept back, the deadline is a new one.
      have latest := gather_receive_argmax window w.clock w.deadline e (recent d)
      rw [← keeps.memory] at latest
      obtain ⟨next, -⟩ := gather_receive window w.clock w.deadline e w.memory
      constructor
      · rw [recent_concat rfl]
        exact latest
      · intro _
        show ((gather n).receive w.clock w.deadline e w.memory).2.2.isSome = true ↔
          ((gather n).receive w.clock w.deadline e w.memory).1.isSome = true
        rw [next, latest]
        simp [Option.isSome_iff_ne_none, List.argmax_eq_none]
      · intro t set
        rw [quiet_concat_of_handled rfl]
        exact (Option.some.inj (next.symm.trans set)).symm
    | ended empty gone =>
      constructor
      · rw [recent_concat rfl]
        exact keeps.memory.trans (by simp [Entry.handled?])
      · intro running
        cases running
      · intro t set
        cases set
    | flushed empty here due =>
      constructor
      · rw [recent_concat_of_flush rfl]
        rfl
      · intro _
        exact Iff.rfl
      · intro t set
        cases set

theorem writes (window : 0 < n) (writes : Writes (gather n) (start none available) d w) :
    Keeps n d w := by
  induction writes with
  | nil =>
    refine ⟨rfl, fun _ => Iff.rfl, ?_⟩
    intro t set
    cases set
  | concat before last ih => exact ih.does window last

end Keeps

/-! ## At the head of the loop -/

/-- What holds of the worker `w` whenever it begins a round, and of that round; its window is `n`
    milliseconds, and its diary `d`. -/
structure Slot (n : Nat) (d : List (Entry Request)) (w : Worker (Option Request) Request) :
    Prop where
  /-- There is a deadline iff something is kept back. -/
  set_iff : w.isAlive = true → (w.deadline.isSome = true ↔ w.memory.isSome = true)
  /-- It comes the length of the window after the last request. -/
  due : ∀ t, w.deadline = some t → t + quiet d = w.clock + n
  /-- Kept back is the first one that has the largest ticket, of those that came since the last one
      was let go. -/
  latest : ∀ r, w.memory = some r ↔ r ∈ recent d ∧ (∀ x ∈ recent d, x.ticket ≤ r.ticket) ∧
    ∀ x ∈ recent d, r.ticket ≤ x.ticket → (recent d).idxOf r ≤ (recent d).idxOf x
  nothing : w.memory = none ↔ recent d = []
  /-- A request that is handled puts the deadline off, wherever its ticket belongs, and nothing is
      let go. -/
  received : ∀ v e now deadline next out,
    w.step (gather n) = some (v, .received e now deadline next, out) →
      v.deadline = some (w.clock + n) ∧ recent (d ++ [.round (.received e now deadline next)]) =
        recent d ++ [e] ∧ out.filterMap Verdict.dispatched? = []
  /-- What is kept back is let go once, alone, when nothing waits and no request was handled for the
      length of the window; nothing is kept back then. -/
  flushed : ∀ v now out, w.step (gather n) = some (v, .flushed now, out) →
    ∃ r, w.memory = some r ∧ out = [.dispatch r] ∧ w.mailbox.waiting = [] ∧ n ≤ quiet d ∧
      v.memory = none ∧ v.deadline = none ∧ recent (d ++ [.round (.flushed now)]) = []
  /-- That is what happens as soon as it may. -/
  flushes : ∀ r, w.isAlive = true → w.senderGone = false → w.mailbox.waiting = [] →
    w.memory = some r → n ≤ quiet d →
      ∃ v, w.step (gather n) = some (v, .flushed w.clock, [.dispatch r])
  ended : ∀ v out, w.step (gather n) = some (v, .ended, out) → out = []

theorem isDue_iff (keeps : Keeps n d w) {t : Nat} (set : w.deadline = some t) :
    w.isDue = true ↔ n ≤ quiet d := by
  have due := keeps.due t set
  rw [isDue, set, Option.any_some, decide_eq_true_eq]
  omega

theorem step_of_gone {σ ε ω : Type} {h : Handler σ ε ω} {w : Worker σ ε}
    (alive : w.isAlive = true) (empty : w.mailbox.waiting = []) (gone : w.senderGone = true) :
    w.step h = some (w.quit, .ended, []) := by
  have taken : w.mailbox.take? = none := by simp only [Mailbox.take?, empty]
  simp only [step, alive, taken, gone, if_true]

theorem Keeps.slot (window : 0 < n) (keeps : Keeps n d w) : Slot n d w := by
  constructor
  · exact keeps.set_iff
  · exact keeps.due
  · intro r
    rw [keeps.memory]
    exact List.argmax_eq_some_iff
  · rw [keeps.memory]
    exact List.argmax_eq_none
  · intro v e now deadline next out step
    obtain ⟨alive, round⟩ := round_of_step step
    cases round with
    | received first =>
      rw [step_of_cons alive first] at step
      cases step
      obtain ⟨later, silent⟩ := gather_receive window w.clock w.deadline e w.memory
      exact ⟨later, recent_concat rfl, silent⟩
  · intro v now out step
    obtain ⟨alive, round⟩ := round_of_step step
    cases round with
    | flushed empty here due =>
      rw [step_of_nil alive empty here, if_pos due] at step
      cases step
      have set : w.deadline.isSome = true := by
        rcases off : w.deadline with _ | t
        · simp [isDue, off] at due
        · rfl
      obtain ⟨t, set_at⟩ := Option.isSome_iff_exists.1 set
      obtain ⟨r, kept⟩ := Option.isSome_iff_exists.1 ((keeps.set_iff alive).1 set)
      refine ⟨r, kept, ?_, empty, (isDue_iff keeps set_at).1 due, rfl, rfl,
        recent_concat_of_flush rfl⟩
      show w.memory.toList.map Verdict.dispatch = _
      rw [kept]
      rfl
  · intro r alive here empty kept passed
    have set : w.deadline.isSome = true := (keeps.set_iff alive).2 (by rw [kept]; rfl)
    obtain ⟨t, set_at⟩ := Option.isSome_iff_exists.1 set
    rw [step_of_nil alive empty here, if_pos ((isDue_iff keeps set_at).2 passed)]
    refine ⟨(w.flush (gather n)).1, ?_⟩
    simp [flush, gather, kept]
  · intro v out step
    obtain ⟨alive, round⟩ := round_of_step step
    cases round with
    | ended empty gone =>
      rw [step_of_gone alive empty gone] at step
      cases step
      rfl

/-- **The request with the largest ticket is kept back for as long as others come**, whatever is
    sent to the worker in whatever order, and however time goes by. -/
theorem slot_of_writes (window : 0 < n) (writes : Writes (gather n) (start none available) d w) :
    w.Slot n d :=
  (Keeps.writes window writes).slot window

/-- Of two requests that come the wrong way round, the later one is kept back and let go. -/
theorem slot_of_swapped :
    let early : Request := ⟨1, [], 100⟩
    let late : Request := ⟨2, [], 100⟩
    let x := perform (gather 10) (start none true) [.send late, .send early, .settle]
    let w := x.1.elapse 10
    0 < 10 ∧ Writes (gather 10) (start none true) (x.2 ++ [.elapsed 10]) w ∧
      w.Slot 10 (x.2 ++ [.elapsed 10]) ∧ recent (x.2 ++ [.elapsed 10]) = [late, early] ∧
      ∃ v, w.step (gather 10) = some (v, .flushed 10, [.dispatch late]) := by
  intro early late x w
  have writes : Writes (gather 10) (start none true) (x.2 ++ [.elapsed 10]) w :=
    (writes_perform (gather 10) (start none true) _).append (Does.elapsed 10).writes
  have slot := slot_of_writes (by decide) writes
  exact ⟨by decide, writes, slot, by decide,
    slot.flushes late (by decide) (by decide) (by decide) (by decide) (by decide)⟩

end Worker

end MarkerStrip
