/-
  Late results do not replace newer ones.

  What a board shows is determined by the readings that were offered to it,
  taken together: it is the result of the latest request whose document could
  be read, as it was read first.

  * `Reading.newest` and `Reading.shown` say this of a list of readings, and
    `Board.Reflects` of a board; `Board.Reflects.absorb`: taking up one more
    reading keeps it;
  * `Board.absorb_stale`: a result that is not later than what is on show
    changes nothing;
  * `Reading.newest_shown_congr`: where equal requests read alike, only the set
    of the requests counts, not the order and number of the readings.
-/
import MarkerStrip.Proofs.Turn

namespace MarkerStrip

/-! ## The latest of several readings -/

namespace Reading

/-- The markers, if the document could be read. -/
def markers? (x : Reading) : Option (List Marker) := x.result.toOption

/-- The latest ticket whose document could be read, or zero. -/
def newest : List Reading → Ticket
  | [] => 0
  | x :: xs => if x.markers?.isSome then max x.ticket (newest xs) else newest xs

/-- The markers of the first reading for a ticket whose document could be read. -/
def firstOf (t : Ticket) (xs : List Reading) : Option (List Marker) :=
  xs.findSome? fun x => if x.ticket = t then x.markers? else none

/-- The first markers of the latest ticket, or none. -/
def shown (xs : List Reading) : List Marker := (firstOf (newest xs) xs).getD []

variable {xs ys : List Reading} {x : Reading} {ms : List Marker} {t : Ticket}

theorem newest_le_iff : newest xs ≤ t ↔ ∀ x ∈ xs, x.markers?.isSome → x.ticket ≤ t := by
  induction xs with
  | nil => simp [newest]
  | cons x xs ih =>
    rw [newest]
    split
    · next hx => rw [Nat.max_le, ih]; simp [hx]
    · next hx => simp [ih, hx]

theorem le_newest (hx : x ∈ xs) (hm : x.markers?.isSome) : x.ticket ≤ newest xs :=
  newest_le_iff.1 (Nat.le_refl _) x hx hm

theorem exists_newest (h : newest xs ≠ 0) :
    ∃ x ∈ xs, x.markers?.isSome ∧ x.ticket = newest xs := by
  by_contra hn
  have lower : newest xs ≤ newest xs - 1 := newest_le_iff.2 fun x hx hm =>
    Nat.le_sub_one_of_lt (Nat.lt_of_le_of_ne (le_newest hx hm) fun he => hn ⟨x, hx, hm, he⟩)
  exact absurd lower (Nat.not_le.2 (Nat.sub_one_lt h))

theorem newest_append : newest (xs ++ ys) = max (newest xs) (newest ys) := by
  induction xs with
  | nil => simp [newest]
  | cons x xs ih =>
    simp only [List.cons_append, newest, ih]
    split
    · rw [Nat.max_assoc]
    · rfl

theorem firstOf_append : firstOf t (xs ++ ys) = (firstOf t xs).or (firstOf t ys) :=
  List.findSome?_append

theorem isSome_firstOf (hx : x ∈ xs) (hm : x.markers?.isSome) : (firstOf x.ticket xs).isSome :=
  List.findSome?_isSome_iff.2 ⟨x, hx, by rwa [if_pos rfl]⟩

theorem exists_of_firstOf (h : firstOf t xs = some ms) :
    ∃ x ∈ xs, x.ticket = t ∧ x.markers? = some ms := by
  obtain ⟨x, hx, hm⟩ := List.exists_of_findSome?_eq_some h
  split at hm
  · next ht => exact ⟨x, hx, ht, hm⟩
  · cases hm

/-- A ticket later than all that were read has no markers yet. -/
theorem firstOf_eq_none (h : newest xs < t) : firstOf t xs = none := by
  refine List.findSome?_eq_none_iff.2 fun x hx => ?_
  split
  · next ht =>
    by_contra hm
    have := le_newest hx (Option.ne_none_iff_isSome.1 hm)
    exact absurd (ht ▸ this) (Nat.not_le.2 h)
  · rfl

/-- Where equal requests read alike, the readings of a ticket do not depend on how often and in
    which order requests were computed. -/
theorem firstOf_congr {g : Request → Except ReadFailure (List Marker)}
    (hx : ∀ x ∈ xs, x.result = g x.request) (hy : ∀ y ∈ ys, y.result = g y.request)
    (unique : ∀ x ∈ xs, ∀ x' ∈ xs, x.ticket = x'.ticket → x.request = x'.request)
    (same : ∀ r, r ∈ xs.map request ↔ r ∈ ys.map request) (t : Ticket) :
    firstOf t xs = firstOf t ys := by
  have alike : ∀ y ∈ ys, ∃ x ∈ xs, x.request = y.request ∧ x.markers? = y.markers? := by
    intro y h
    obtain ⟨x, hxs, hxy⟩ := List.mem_map.1 ((same y.request).2 (List.mem_map_of_mem h))
    exact ⟨x, hxs, hxy, by rw [markers?, markers?, hx x hxs, hy y h, hxy]⟩
  rcases hf : firstOf t xs with _ | ms
  · refine (List.findSome?_eq_none_iff.2 fun y h => ?_).symm
    obtain ⟨x, hxs, hxy, hm⟩ := alike y h
    have := List.findSome?_eq_none_iff.1 hf x hxs
    rwa [ticket, hxy, hm] at this
  · obtain ⟨x, hxs, hxt, hxm⟩ := exists_of_firstOf hf
    obtain ⟨y, hys, hxy⟩ := List.mem_map.1 ((same x.request).1 (List.mem_map_of_mem hxs))
    have hym : y.markers? = x.markers? := by rw [markers?, markers?, hx x hxs, hy y hys, hxy]
    have hyt : y.ticket = t := by rw [ticket, hxy]; exact hxt
    obtain ⟨ns, hns⟩ := Option.isSome_iff_exists.1
      (hyt ▸ isSome_firstOf hys (by simp [hym, hxm]))
    obtain ⟨y', hys', hyt', hym'⟩ := exists_of_firstOf hns
    obtain ⟨x', hxs', hxy', hm'⟩ := alike y' hys'
    have hr : x.request = x'.request := unique x hxs x' hxs' (by
      rw [hxt, ← hyt', ticket, ticket, hxy'])
    have hmm : x.markers? = x'.markers? := by rw [markers?, markers?, hx x hxs, hx x' hxs', hr]
    rw [hns, ← hym', ← hm', ← hmm, hxm]

theorem newest_mono {g : Request → Except ReadFailure (List Marker)}
    (hx : ∀ x ∈ xs, x.result = g x.request) (hy : ∀ y ∈ ys, y.result = g y.request)
    (sub : ∀ r ∈ xs.map request, r ∈ ys.map request) : newest xs ≤ newest ys := by
  refine newest_le_iff.2 fun x h hm => ?_
  obtain ⟨y, hys, hxy⟩ := List.mem_map.1 (sub x.request (List.mem_map_of_mem h))
  have hym : y.markers? = x.markers? := by rw [markers?, markers?, hx x h, hy y hys, hxy]
  have := le_newest hys (hym ▸ hm)
  rwa [ticket, hxy] at this

/-- **Only the set of the requests computed counts**, where equal requests read alike. -/
theorem newest_shown_congr {g : Request → Except ReadFailure (List Marker)}
    (hx : ∀ x ∈ xs, x.result = g x.request) (hy : ∀ y ∈ ys, y.result = g y.request)
    (unique : ∀ x ∈ xs, ∀ x' ∈ xs, x.ticket = x'.ticket → x.request = x'.request)
    (same : ∀ r, r ∈ xs.map request ↔ r ∈ ys.map request) :
    newest xs = newest ys ∧ shown xs = shown ys := by
  have hn : newest xs = newest ys := Nat.le_antisymm (newest_mono hx hy fun r => (same r).1)
    (newest_mono hy hx fun r => (same r).2)
  exact ⟨hn, by rw [shown, shown, hn, firstOf_congr hx hy unique same]⟩

end Reading

/-! ## Boards -/

namespace Board
variable {b : Board} {xs : List Reading} {x : Reading} {t : Ticket}

/-- A board shows what some readings came to. -/
structure Reflects (b : Board) (xs : List Reading) : Prop where
  published : b.published = Reading.newest xs
  current : b.current = Reading.shown xs

/-- **A result that is not later than what is on show changes nothing**; if there are markers at
    all, the answer says which ticket is on show. -/
theorem absorb_stale (h : t ≤ b.published) (r : Except ReadFailure (List Marker)) :
    b.absorb t r = (r.map fun _ => .superseded b.published, b) := by
  rcases r with f | ms
  · rfl
  · simp [absorb, publish, h, Except.map]

theorem absorb_later (h : b.published < t) (ms : List Marker) :
    b.absorb t (.ok ms) = (.ok (.applied (moved b.current ms)),
      { b with published := t, current := ms, previous := b.current }) := by
  simp [absorb, publish, Nat.not_le.2 h]

/-- **Taking up one more reading, a board shows what all of them came to.** -/
theorem Reflects.absorb (h : b.Reflects xs) (drawn : 0 < x.ticket) :
    (b.absorb x.ticket x.result).2.Reflects (xs ++ [x]) := by
  rcases hr : x.result with f | ms
  · have hn : x.markers? = none := by simp [Reading.markers?, hr, Except.toOption]
    have hnew : Reading.newest (xs ++ [x]) = Reading.newest xs := by
      simp [Reading.newest_append, Reading.newest, hn]
    have hone : Reading.firstOf (Reading.newest xs) [x] = none := by simp [Reading.firstOf, hn]
    refine ⟨hnew ▸ h.published, ?_⟩
    rw [Reading.shown, hnew, Reading.firstOf_append, hone, Option.or_none]
    exact h.current
  · have hm : x.markers? = some ms := by simp [Reading.markers?, hr, Except.toOption]
    have hnew : Reading.newest (xs ++ [x]) = max b.published x.ticket := by
      simp [Reading.newest_append, Reading.newest, hm, h.published]
    rcases Nat.lt_or_ge b.published x.ticket with later | stale
    · rw [absorb_later later]
      refine ⟨?_, ?_⟩
      · rw [hnew, Nat.max_eq_right (Nat.le_of_lt later)]
      · rw [Reading.shown, hnew, Nat.max_eq_right (Nat.le_of_lt later), Reading.firstOf_append,
          Reading.firstOf_eq_none (h.published ▸ later)]
        simp [Reading.firstOf, hm]
    · rw [absorb_stale stale]
      rw [Nat.max_eq_left stale] at hnew
      have read : Reading.newest xs ≠ 0 := by
        rw [← h.published]
        exact Nat.ne_of_gt (Nat.lt_of_lt_of_le drawn stale)
      obtain ⟨y, hy, hym, hyt⟩ := Reading.exists_newest read
      obtain ⟨ns, hns⟩ := Option.isSome_iff_exists.1 (hyt ▸ Reading.isSome_firstOf hy hym)
      refine ⟨hnew.symm, ?_⟩
      rw [Reading.shown, hnew, Reading.firstOf_append, h.published, hns, Option.some_or, ← hns]
      exact h.current

/-- A board after it has been offered a reading, if any. -/
def take (b : Board) : Option Reading → Board
  | some x => (b.absorb x.ticket x.result).2
  | none => b

theorem Reflects.take (h : b.Reflects xs) {x : Option Reading} (drawn : ∀ z ∈ x, 0 < z.ticket) :
    (b.take x).Reflects (xs ++ x.toList) := by
  rcases x with _ | x
  · rw [Option.toList_none, List.append_nil]
    exact h
  · exact h.absorb (drawn x rfl)

theorem published_le_take (b : Board) (x : Option Reading) :
    b.published ≤ (b.take x).published := by
  rcases x with _ | ⟨r, f | ms, a⟩
  · exact Nat.le_refl _
  · exact Nat.le_refl _
  · rcases Nat.lt_or_ge b.published r.ticket with later | stale
    · simp only [take, Reading.ticket, absorb_later later]
      exact Nat.le_of_lt later
    · simp only [take, Reading.ticket, absorb_stale stale]
      exact Nat.le_refl _

end Board

namespace Job
variable {j : Job} {b : Board} {x : Reading}

/-- A computation changes the board by the reading that it offers. -/
theorem board_proceed (j : Job) (l : Layout) (e : Editor) (b : Board) :
    (j.proceed l e b).2 = b.take (j.reading? b) := by
  rcases j with ⟨r, _ | _ | _ | _⟩ <;> rfl

theorem answer_eq (h : j.reading? b = some x) :
    x.answer = (b.absorb x.ticket x.result).1 := by
  rcases j with ⟨r, _ | _ | result | _⟩ <;> cases h
  rfl

theorem request_eq (h : j.reading? b = some x) : x.request = j.request := by
  rcases j with ⟨r, _ | _ | result | _⟩ <;> cases h
  rfl

end Job

/-- What a board that is offered a reading, if any, does not do: go back, or heed late markers. -/
structure Board.Guards (b : Board) (x : Option Reading) (b' : Board) : Prop where
  grows : b.published ≤ b'.published
  stale : ∀ z, x = some z → z.ticket ≤ b.published →
    z.answer = z.result.map (fun _ => .superseded b.published) ∧
      b'.published = b.published ∧ b'.current = b.current ∧ b'.previous = b.previous

namespace Board.Guards

theorem refl (b : Board) : b.Guards none b := ⟨Nat.le_refl _, nofun⟩

theorem draw (b : Board) : b.Guards none b.draw.2 := ⟨Nat.le_refl _, nofun⟩

theorem proceed (j : Job) (l : Layout) (e : Editor) (b : Board) :
    b.Guards (j.reading? b) (j.proceed l e b).2 := by
  rw [j.board_proceed]
  refine ⟨b.published_le_take _, fun z hz stale => ?_⟩
  rw [hz, take, Job.answer_eq hz, absorb_stale stale]
  exact ⟨rfl, rfl, rfl, rfl⟩

end Board.Guards

/-- **No turn of a strip goes back, or heeds late markers.** -/
theorem Turn.guards {e : Editor} {s v : Strip} {a : Action} {x : Option Reading}
    {y : Option Ending} {fx : List Effect} (turn : Turn e s a x y v fx) :
    s.board.Guards x v.board := by
  cases turn with
  | accepted | refused => exact .draw _
  | proceeded => exact .proceed ..
  | _ => exact .refl _

/-! ## What computations have seen -/

/-- A job notes only tabs in `tabs`, and comes only to results in `results`. -/
def Job.Sound (tabs : Request → UInt64 → Prop)
    (results : Request → Except ReadFailure (List Marker) → Prop) (j : Job) : Prop :=
  match j.stage with
  | .started tab => tabs j.request tab
  | .read result => results j.request result
  | .dispatched | .answered _ => True

namespace Job.Sound
variable {tabs tabs' : Request → UInt64 → Prop}
  {results results' : Request → Except ReadFailure (List Marker) → Prop} {j : Job}

theorem of_isNew (h : j.stage = .dispatched) : j.Sound tabs results := by
  rw [Sound, h]
  trivial

theorem of_forall (ht : ∀ tab, tabs j.request tab) (hr : ∀ result, results j.request result) :
    j.Sound tabs results := by
  rcases j with ⟨r, _ | tab | result | _⟩
  · trivial
  · exact ht tab
  · exact hr result
  · trivial

theorem mono (h : j.Sound tabs results) (ht : ∀ r tab, tabs r tab → tabs' r tab)
    (hr : ∀ r result, results r result → results' r result) : j.Sound tabs' results' := by
  rcases j with ⟨r, _ | tab | result | _⟩
  · trivial
  · exact ht r tab h
  · exact hr r result h
  · trivial

theorem proceed (h : j.Sound tabs results) {l : Layout} {e : Editor} (b : Board)
    (ht : j.stage = .dispatched → tabs' j.request e.activeTab)
    (hr : ∀ r tab, tabs r tab → results' r (r.compute l e tab)) :
    (j.proceed l e b).1.Sound tabs' results' := by
  rcases j with ⟨r, _ | tab | result | _⟩
  · exact ht rfl
  · exact hr r tab h
  · trivial
  · trivial

theorem reading (h : j.Sound tabs results) {b : Board} {x : Reading} (hx : j.reading? b = some x) :
    results x.request x.result := by
  rcases j with ⟨r, _ | tab | result | _⟩ <;> cases hx
  exact h

end Job.Sound

section
variable {e : Editor} {s v : Strip} {a : Action} {x : Option Reading} {y : Option Ending}
  {fx : List Effect} {tabs tabs' : Request → UInt64 → Prop}
  {results results' : Request → Except ReadFailure (List Marker) → Prop}

/-- A job that starts notes what the editor shows then, one that reads comes to what the editor
    shows then, and other jobs have seen what they had seen before. -/
theorem Turn.sound_of_acted (turn : Turn e s a x y v fx) (h : ∀ j ∈ s.jobs, j.Sound tabs results)
    (tabs_sub : ∀ r tab, tabs r tab → tabs' r tab)
    (results_sub : ∀ r result, results r result → results' r result)
    (ht : ∀ j, s.acted? a = some j → j.stage = .dispatched → tabs' j.request e.activeTab)
    (hr : ∀ r tab, tabs r tab → results' r (r.compute s.layout e tab)) :
    (∀ j ∈ v.jobs, j.Sound tabs' results') ∧ ∀ z, x = some z → results z.request z.result := by
  have old : ∀ j ∈ s.jobs, j.Sound tabs' results' := fun j hj => (h j hj).mono tabs_sub results_sub
  cases turn with
  | dispatched | flushed =>
    refine ⟨fun j hj => (List.mem_append.1 hj).elim (old j) fun hj => .of_isNew ?_, nofun⟩
    simp only [List.mem_singleton, List.mem_map] at hj
    first
    | exact hj ▸ rfl
    | obtain ⟨r, -, rfl⟩ := hj
      rfl
  | proceeded place at_k under_way =>
    have sound := h _ (List.mem_of_getElem? at_k)
    refine ⟨fun j hj => ?_, fun z hz => sound.reading hz⟩
    rcases List.mem_or_eq_of_mem_set hj with hj | rfl
    · exact old j hj
    · exact sound.proceed _ (ht _ (Strip.acted?_proceed place at_k)) hr
  | ended => exact ⟨fun j hj => old j (List.mem_of_mem_eraseIdx hj), nofun⟩
  | _ => exact ⟨old, nofun⟩

theorem Turn.sound (turn : Turn e s a x y v fx) (h : ∀ j ∈ s.jobs, j.Sound tabs results)
    (ht : ∀ r, tabs r e.activeTab)
    (hr : ∀ r tab, tabs r tab → results r (r.compute s.layout e tab)) :
    (∀ j ∈ v.jobs, j.Sound tabs results) ∧ ∀ z, x = some z → results z.request z.result :=
  turn.sound_of_acted h (fun _ _ => id) (fun _ _ => id) (fun j _ _ => ht j.request) hr

end

/-- Where every action of a history moves the jobs by what the editor shows then, a reading is what
    was computed at one time over the tab that was active at an earlier time. -/
theorem exists_computed {α : Type} (editor : List α → Editor) (layout : List α → Layout)
    (jobs : List α → List Job) {readings : List α → List Reading}
    (no_jobs : jobs [] = []) (no_readings : readings [] = [])
    (sound : ∀ as a tabs results, (∀ j ∈ jobs as, j.Sound tabs results) →
      (∀ r, tabs r (editor as).activeTab) →
      (∀ r tab, tabs r tab → results r (r.compute (layout as) (editor as) tab)) →
      (∀ j ∈ jobs (as ++ [a]), j.Sound tabs results) ∧
        ∀ x ∈ readings (as ++ [a]), x ∈ readings as ∨ results x.request x.result)
    (as : List α) :
    ∀ x ∈ readings as, ∃ early late, early <+: late ∧ late <+: as ∧
      x.result = x.request.compute (layout late) (editor late) (editor early).activeTab := by
  have key : (∀ j ∈ jobs as, j.Sound
      (fun _ tab => ∃ early, early <+: as ∧ tab = (editor early).activeTab)
      fun r result => ∃ early late, early <+: late ∧ late <+: as ∧
        result = r.compute (layout late) (editor late) (editor early).activeTab) ∧
      ∀ x ∈ readings as, ∃ early late, early <+: late ∧ late <+: as ∧
        x.result = x.request.compute (layout late) (editor late) (editor early).activeTab := by
    induction as using List.reverseRecOn with
    | nil =>
      rw [no_jobs, no_readings]
      exact ⟨nofun, nofun⟩
    | append_singleton as a ih =>
      have sub : as <+: as ++ [a] := List.prefix_append ..
      -- what was seen before has been seen now
      have tabs_sub : ∀ tab, (∃ early, early <+: as ∧ tab = (editor early).activeTab) →
          ∃ early, early <+: as ++ [a] ∧ tab = (editor early).activeTab := by
        rintro tab ⟨early, he, rfl⟩
        exact ⟨early, he.trans sub, rfl⟩
      have results_sub : ∀ (r : Request) (result : Except ReadFailure (List Marker)),
          (∃ early late, early <+: late ∧ late <+: as ∧
            result = r.compute (layout late) (editor late) (editor early).activeTab) →
          ∃ early late, early <+: late ∧ late <+: as ++ [a] ∧
            result = r.compute (layout late) (editor late) (editor early).activeTab := by
        rintro r result ⟨early, late, he, hl, rfl⟩
        exact ⟨early, late, he, hl.trans sub, rfl⟩
      have next := sound as a _ _ ih.1 (fun _ => ⟨as, List.prefix_refl as, rfl⟩) (by
        rintro r tab ⟨early, he, rfl⟩
        exact ⟨early, as, he, List.prefix_refl as, rfl⟩)
      refine ⟨fun j hj => (next.1 j hj).mono (fun _ => tabs_sub) results_sub, fun x hx => ?_⟩
      rcases next.2 x hx with hx | hx
      · exact results_sub _ _ (ih.2 x hx)
      · exact results_sub _ _ hx
  exact key.2

end MarkerStrip
