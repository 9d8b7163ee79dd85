/-
  What is told of a request.

  The end of a computation is told twice: to the editor, by an event, and to the
  log, unless it went well.  Nothing else is told of its request, neither before
  nor afterwards.

  * `Session.notes_eq`: the notes that are no warnings are those of the
    computations that ended, in the order of their ends;
  * `Session.eventsOf` and `Session.notesOf` are what a run tells of a ticket, and
    `Session.told_of_ended` says what that is once its computation has ended.
-/
import MarkerStrip.Proofs.Fates

namespace MarkerStrip

/-- What an effect adds to the log. -/
@[simp]
def Effect.note? : Effect → Option Note
  | .note n => some n
  | _ => none

/-- The request that a note is about. -/
def Note.ticket? : Note → Option Ticket
  | requestRefused t _ | outdated t _ | documentUnreadable t _ _ | computationCrashed t => some t
  | colorIgnored _ _ | workerUnavailable => none

/-- What the log says about the end of a job. -/
def Ending.notes (y : Ending) : List Note := Note.ofAnswer y.request.ticket y.answer

theorem Ending.of_mem_notes {y : Ending} {n : Note} (h : n ∈ y.notes) :
    n.ticket? = some y.request.ticket ∧ n.level ≠ .warning := by
  obtain ⟨r, (_ | _) | (_ | _)⟩ := y <;>
    simp only [notes, Note.ofAnswer, List.mem_singleton, List.not_mem_nil] at h <;> subst h <;>
    exact ⟨rfl, by simp [Note.level]⟩

theorem Ending.filter_notes (ys : List Ending) (t : Ticket) :
    (ys.flatMap notes).filter (fun n => n.ticket? == some t) =
      (ys.filter fun y => y.request.ticket == t).flatMap notes := by
  induction ys with
  | nil => rfl
  | cons y ys ih =>
    rw [List.flatMap_cons, List.filter_append, ih]
    by_cases same : y.request.ticket = t
    · rw [List.filter_cons_of_pos (by simpa using same), List.flatMap_cons, List.filter_eq_self.2]
      intro n hn
      simpa [same] using (of_mem_notes hn).1
    · rw [List.filter_cons_of_neg (by simpa using same), List.filter_eq_nil_iff.2]
      · rfl
      · intro n hn
        simpa [(of_mem_notes hn).1] using same

theorem Effect.note?_of_isPointing {z : Effect} (h : z.isPointing = true) : z.note? = none := by
  cases z <;> first | rfl | cases h

/-- Warnings apart, a turn notes the end of a computation and nothing else. -/
theorem Turn.notes_eq {e : Editor} {s v : Strip} {a : Action} {x : Option Reading}
    {y : Option Ending} {gx : List Effect} (turn : Turn e s a x y v gx) :
    (gx.filterMap Effect.note?).filter (fun n => n.level ≠ .warning) =
      y.toList.flatMap Ending.notes := by
  cases turn with
  | @ended t k j answer =>
    have all : ((Note.ofAnswer j.request.ticket answer).map Effect.note).filterMap Effect.note? =
        Ending.notes ⟨j.request, answer⟩ := by
      rw [List.filterMap_map]
      exact List.filterMap_some
    rw [all, Option.toList_some, List.flatMap_singleton, List.filter_eq_self]
    intro n hn
    simpa using (Ending.of_mem_notes hn).2
  | drained => simp [List.filterMap_map, Function.comp_def]
  | still _ idle pointing =>
    rw [List.filterMap_eq_nil_iff.2 fun z hz => Effect.note?_of_isPointing (pointing z hz)]
    rfl
  | _ => rfl

namespace Session

/-- The events about a ticket, handed over or not. -/
def eventsOf (s : Session) (as : List Action) (t : Ticket) : List Event :=
  ((s.run as).1.strip.allEvents (s.run as).2).filter fun z => z.ticket == t

/-- The notes about a ticket. -/
def notesOf (s : Session) (as : List Action) (t : Ticket) : List Note :=
  ((s.run as).2.filterMap Effect.note?).filter fun n => n.ticket? == some t

/-- The ends of jobs for a ticket. -/
def endingsOf (s : Session) (as : List Action) (t : Ticket) : List Ending :=
  (s.endings as).filter fun y => y.request.ticket == t

section
variable (e : Editor) (σ : Settings) (h : UInt32) (available : Bool) (as : List Action)

/-- **The notes, warnings apart, are those of the computations that ended, in the order of their
    ends.** -/
theorem notes_eq :
    let s := (start e σ h available).1
    ((s.run as).2.filterMap Effect.note?).filter (fun n => n.level ≠ .warning) =
      (s.endings as).flatMap Ending.notes := by
  refine run_induction (P := fun p _ _ =>
    (p.effects.filterMap Effect.note?).filter (fun n => n.level ≠ .warning) =
      p.endings.flatMap Ending.notes) rfl rfl (fun ih turn => ?_) as
  simp only [Past.add, List.filterMap_append, List.filter_append, List.flatMap_append, ih,
    turn.notes_eq]

theorem nodup_endings :
    (((start e σ h available).1.endings as).map fun y => y.request.ticket).Nodup := by
  have nodup := accounts_nodup e σ h available as
  have ended := (List.nodup_flatMap.1 nodup).1 .ended (by simp)
  rw [Strip.withFate, allEvents_eq, List.map_map] at ended
  have tickets : Event.ticket ∘ Ending.event = fun y => y.request.ticket :=
    funext fun y => Event.ticket_ofAnswer ..
  rwa [tickets] at ended

end

section
variable {e : Editor} {σ : Settings} {h : UInt32} {available : Bool} {s : Session}
  (new : s = (start e σ h available).1) {as : List Action} {t : Ticket}
include new

theorem eventsOf_eq : s.eventsOf as t = (s.endingsOf as t).map Ending.event := by
  subst new
  rw [eventsOf, allEvents_eq, List.filter_map, endingsOf]
  congr 2
  exact funext fun y => by simp [Ending.event]

/-- Of a request that was not refused the log tells no more than the end of its computation. -/
theorem notesOf_eq (admitted : t ∉ s.withFate as .refused) :
    s.notesOf as t = (s.endingsOf as t).flatMap Ending.notes := by
  subst new
  set s := (start e σ h available).1
  have calm : s.notesOf as t = (((s.run as).2.filterMap Effect.note?).filter
      (fun n => n.level ≠ .warning)).filter fun n => n.ticket? == some t := by
    rw [List.filter_filter, notesOf]
    refine List.filter_congr fun n hn => ?_
    obtain ⟨z, hz, hn⟩ := List.mem_filterMap.1 hn
    obtain rfl : z = .note n := by
      cases z <;> first | cases hn; rfl | cases hn
    -- a warning about the ticket would be its refusal
    by_cases about : n.ticket? = some t
    · have mild : n.level ≠ .warning := by
        intro warning
        obtain ⟨t', why, rfl⟩ := refusal_of_warning e σ h available as hz warning
        obtain rfl := Option.some.inj about
        exact admitted (List.mem_filterMap.2 ⟨_, hz, rfl⟩)
      simp [about, mild]
    · simp [about]
  rw [calm, notes_eq, Ending.filter_notes, endingsOf]

theorem endingsOf_eq {y : Ending} (ended : y ∈ s.endings as) :
    s.endingsOf as y.request.ticket = [y] := by
  subst new
  have once := List.count_eq_one_of_mem (nodup_endings e σ h available as)
    (List.mem_map_of_mem ended)
  rw [List.count, List.countP_map, List.countP_eq_length_filter] at once
  obtain ⟨z, all⟩ := List.length_eq_one_iff.1 once
  have here : y ∈ [z] := by
    rw [← all]
    exact List.mem_filter.2 ⟨ended, beq_self_eq_true _⟩
  obtain rfl := List.mem_singleton.1 here
  exact all

theorem admitted_of_ended {y : Ending} (ended : y ∈ s.endings as) :
    y.request.ticket ∉ s.withFate as .refused := by
  have nodup := accounts_nodup e σ h available as
  rw [← new] at nodup
  have fate : y.request.ticket ∈ s.withFate as .ended := by
    have told : y.event ∈ s.eventsOf as y.request.ticket := by
      simp [eventsOf_eq new, endingsOf_eq new ended]
    exact List.mem_map.2 ⟨_, List.mem_of_mem_filter told, Event.ticket_ofAnswer ..⟩
  obtain ⟨f, -, only⟩ := one_fate nodup (mem_accounts_of_mem fate)
  obtain rfl : .ended = f := not_imp_comm.1 (only .ended) (not_not.2 fate)
  exact only .refused nofun

/-- **Of a computation that ended one event tells, and those notes that its answer calls for.** -/
theorem told_of_ended {y : Ending} (ended : y ∈ s.endings as) :
    s.eventsOf as y.request.ticket = [y.event] ∧ s.notesOf as y.request.ticket = y.notes := by
  rw [eventsOf_eq new, notesOf_eq new (admitted_of_ended new ended), endingsOf_eq new ended]
  exact ⟨rfl, List.flatMap_singleton ..⟩

end

end Session

end MarkerStrip
