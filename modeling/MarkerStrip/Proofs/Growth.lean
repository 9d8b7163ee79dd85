/-
  A growing document moves no marker down.

  The lines of a text are counted by its breaks, and the breaks of two texts
  put together are those of both, but for a line feed that comes to stand
  behind a carriage return.  A line more never moves a marker down.

  * `Text.breakCount` counts the breaks of a text as they stand in it, and
    `Text.lineCount_eq` says that a scan finds them all;
  * `Text.lineCount_append`: what putting two texts together does to their lines;
  * `totalLines_mono`: more lines, or a greater offset, never make a total less,
    even where it is as great as a word can be;
  * `Metrics.raised_place`: a greater total moves markers only up.
-/
import Mathlib.Data.List.Forall2
import MarkerStrip.Proofs.Layout
import MarkerStrip.Request

namespace MarkerStrip

/-! ## Lines -/

namespace Text

/-- The breaks of a text.  A carriage return and the line feed right behind it are one. -/
def breakCount : List Char → Nat
  | [] => 0
  | '\r' :: '\n' :: cs => breakCount cs + 1
  | c :: cs => breakCount cs + if isBreak c then 1 else 0

/-- The breaks that are lost where `bs` is put behind `as`. -/
def seam (as bs : List Char) : Nat :=
  if as.getLast? = some '\r' ∧ bs.head? = some '\n' then 1 else 0

theorem Scan.breaks_step (s : Scan) (c : Char) :
    (s.step c).breaks + (if s.afterReturn = true ∧ c = '\n' then 1 else 0) =
      s.breaks + if isBreak c then 1 else 0 := by
  by_cases feed : c = '\n'
  · subst feed
    cases h : s.afterReturn <;> simp [step, isBreak, h]
  · simp only [step, feed, and_false, if_false]
    cases isBreak c <;> simp [feed]

/-- A scan finds every break, but for a line feed that belongs to the return before it. -/
theorem Scan.breaks_run (s : Scan) (cs : List Char) :
    (s.run cs).breaks + (if s.afterReturn = true ∧ cs.head? = some '\n' then 1 else 0) =
      s.breaks + breakCount cs := by
  -- Where a return and a line feed stand together, a scan goes on behind both.
  fun_induction breakCount cs generalizing s with
  | case1 => simp [run]
  | case2 cs ih =>
    have both : (s.step '\r').step '\n' = ⟨s.breaks + 1, false⟩ := by simp [step, isBreak]
    have rest : (s.run ('\r' :: '\n' :: cs)).breaks = s.breaks + 1 + breakCount cs := by
      simpa [both, run] using ih ((s.step '\r').step '\n')
    simp only [rest, List.head?_cons, Option.some.injEq, Char.reduceEq, and_false, if_false]
    omega
  | case3 c cs other ih =>
    have rest := ih (s.step c)
    have alone : ¬((s.step c).afterReturn = true ∧ cs.head? = some '\n') := by
      rintro ⟨isReturn, next⟩
      obtain ⟨cs', rfl⟩ := List.head?_eq_some_iff.1 next
      exact other cs' (by simpa [step] using isReturn) rfl
    rw [if_neg alone, Nat.add_zero] at rest
    have first := s.breaks_step c
    simp only [run, List.foldl_cons, List.head?_cons, Option.some.injEq] at rest ⊢
    omega

theorem Scan.afterReturn_run (cs : List Char) :
    (Scan.run {} cs).afterReturn = true ↔ cs.getLast? = some '\r' := by
  induction cs using List.reverseRecOn with
  | nil => simp [run]
  | append_singleton cs c _ => simp [run, step]

/-- **A text has one line more than breaks.** -/
theorem lineCount_eq (t : String) : lineCount t = breakCount t.toList + 1 := by
  simpa [lineCount] using Scan.breaks_run {} t.toList

/-- **Two texts put together share a line,** and a line feed behind a carriage return is no break
    of its own. -/
theorem lineCount_append (a b : String) :
    lineCount (a ++ b) + 1 + seam a.toList b.toList = lineCount a + lineCount b := by
  have second := Scan.breaks_run (Scan.run {} a.toList) b.toList
  simp only [Scan.afterReturn_run, ← Scan.run_append] at second
  rw [lineCount_eq b, lineCount, lineCount, String.toList_append, seam]
  omega

theorem lineCount_le_append (a b : String) : lineCount a ≤ lineCount (a ++ b) := by
  rw [lineCount, lineCount, String.toList_append, Scan.run_append]
  exact Nat.succ_le_succ (Scan.breaks_le_run ..)

end Text

/-! ## Totals -/

theorem toNat_totalLines (t : String) (offset : UInt64) :
    (totalLines t offset).toNat = min (Text.lineCount t + offset.toNat) (2 ^ 64 - 1) := by
  rw [totalLines, UInt64.toNat_ofNat_of_lt']
  · rfl
  · exact Nat.lt_of_le_of_lt (Nat.min_le_right ..) (by decide)

theorem one_le_totalLines (t : String) (offset : UInt64) : 1 ≤ totalLines t offset := by
  have := Text.lineCount_eq t
  rw [UInt64.le_iff_toNat_le, toNat_totalLines, UInt64.toNat_one]
  omega

variable {t t' : String} {offset offset' : UInt64}

theorem totalLines_mono (lines : Text.lineCount t ≤ Text.lineCount t') (offsets : offset ≤ offset') :
    totalLines t offset ≤ totalLines t' offset' := by
  have := UInt64.le_iff_toNat_le.1 offsets
  rw [UInt64.le_iff_toNat_le, toNat_totalLines, toNat_totalLines]
  omega

/-! ## Markers -/

/-- The marker `new` is `old` in the same place or farther up. -/
structure Marker.Raised (old new : Marker) : Prop where
  diagnostic : new.diagnostic = old.diagnostic
  severity : new.severity = old.severity
  y : new.y ≤ old.y

/-- **A greater total moves markers only up.** -/
theorem Metrics.raised_place (m : Metrics) (ds : List Diagnostic) (tab : UInt64) {total total' : UInt64}
    (totals : total ≤ total') (height : UInt32) :
    List.Forall₂ Marker.Raised (m.place ds tab total height) (m.place ds tab total' height) := by
  rw [place, place, List.forall₂_map_left_iff, List.forall₂_map_right_iff, List.forall₂_same]
  intro d _
  exact ⟨rfl, rfl, offset_mono UInt64.le_rfl totals UInt32.le_rfl UInt32.le_rfl⟩

theorem Request.compute_of_read {e : Editor} {tab : UInt64} (read : e.read tab = .ok t) (r : Request)
    (l : Layout) : r.compute l e tab = .ok (r.layOut l tab t) := by
  rw [compute, read]
  rfl

/-- **A growing document moves no marker down.**  A text's lines are one more than its breaks, where
    a return and the line feed behind it are one, also where two texts meet; a computation divides by
    the lines and the offset together, which is at least one; and over a text with more at its end, at
    no less an offset, a request comes to the same markers in the same order, none farther down. -/
theorem Request.growth_raises_markers (r : Request) (m : Metrics) (tab : UInt64) (a b : String)
    (offset offset' : UInt64) (e e' : Editor) (offsets : offset ≤ offset')
    (before : e.read tab = .ok a) (after : e'.read tab = .ok (a ++ b)) :
    let total := totalLines a offset
    let total' := totalLines (a ++ b) offset'
    let old := m.place r.diagnostics tab total r.height
    let new := m.place r.diagnostics tab total' r.height
    Text.lineCount a = Text.breakCount a.toList + 1 ∧
      Text.lineCount (a ++ b) + 1 + Text.seam a.toList b.toList =
        Text.lineCount a + Text.lineCount b ∧
      total.toNat = min (Text.lineCount a + offset.toNat) (2 ^ 64 - 1) ∧ 1 ≤ total ∧ total ≤ total' ∧
      r.compute ⟨m, offset⟩ e tab = .ok old ∧ r.compute ⟨m, offset'⟩ e' tab = .ok new ∧
      List.Forall₂ Marker.Raised old new := by
  intro total total' old new
  have totals : total ≤ total' := totalLines_mono (Text.lineCount_le_append a b) offsets
  have raised : List.Forall₂ Marker.Raised old new := m.raised_place r.diagnostics tab totals r.height
  exact ⟨Text.lineCount_eq a, Text.lineCount_append a b, toNat_totalLines a offset,
    one_le_totalLines a offset, totals, r.compute_of_read before _, r.compute_of_read after _, raised⟩

/-- A line feed comes to stand behind the return that the text ended in, and the offset becomes as
    great as a word can be. -/
theorem Request.growth_raises_markers_seam :
    let r : Request := ⟨1, [⟨0, 1, .error, "x"⟩, ⟨1, 0, .error, "y"⟩, ⟨0, 0, .warning, "z"⟩], 115⟩
    let e : Editor := { documents := [(0, some (.text "a\r"))] }
    let e' : Editor := { documents := [(0, some (.text ("a\r" ++ "\nb")))] }
    let old : List Marker := [⟨⟨0, 1, .error, "x"⟩, 100, .error⟩, ⟨⟨0, 0, .warning, "z"⟩, 50, .warning⟩]
    let new : List Marker := [⟨⟨0, 1, .error, "x"⟩, 0, .error⟩, ⟨⟨0, 0, .warning, "z"⟩, 0, .warning⟩]
    e.read 0 = .ok "a\r" ∧ e'.read 0 = .ok ("a\r" ++ "\nb") ∧
      Text.lineCount "a\r" = 2 ∧ Text.lineCount ("a\r" ++ "\nb") = 2 ∧
      totalLines ("a\r" ++ "\nb") (-1) = -1 ∧
      r.compute ⟨⟨15⟩, 0⟩ e 0 = .ok old ∧ r.compute ⟨⟨15⟩, -1⟩ e' 0 = .ok new ∧
      List.Forall₂ Marker.Raised old new := by
  intro r e e' old new
  obtain ⟨-, -, -, -, -, first, second, raised⟩ := r.growth_raises_markers ⟨15⟩ 0 "a\r" "\nb" 0
    (-1) e e' (by decide) rfl rfl
  have olds : (⟨15⟩ : Metrics).place r.diagnostics 0 (totalLines "a\r" 0) r.height = old := by
    decide +kernel
  have news : (⟨15⟩ : Metrics).place r.diagnostics 0 (totalLines ("a\r" ++ "\nb") (-1)) r.height =
      new := by decide +kernel
  rw [olds] at first raised
  rw [news] at second raised
  exact ⟨rfl, rfl, by decide +kernel, by decide +kernel, by decide +kernel, first, second, raised⟩

end MarkerStrip
