/-
  Counting the lines of a text.

  A text has one line more than it has breaks.  A break is a line feed, a
  carriage return, the pair of the two, a vertical tab, a form feed, a next
  line, a line separator or a paragraph separator.

  * `Scan` reads a text from the left and remembers whether the last
    character was a carriage return, whose pair with a line feed counts once;
  * `Scan.run_append` and `Scan.breaks_le_run`: reading goes on where it stopped,
    and never takes a break back;
  * `lineCount` is the number of lines, at least one.
-/

namespace MarkerStrip.Text

/-- A character that breaks a line. -/
def isBreak (c : Char) : Bool :=
  c == '\n' || c == '\r' || c == '\x0b' || c == '\x0c' || c == '\u0085' || c == '\u2028' ||
    c == '\u2029'

/-- The breaks met so far in a text read from the left. -/
structure Scan where
  breaks : Nat := 0
  afterReturn : Bool := false
deriving Repr, DecidableEq

/-- Reads one more character; a line feed straight after a carriage return ends the same line. -/
def Scan.step (s : Scan) (c : Char) : Scan where
  breaks := if isBreak c && !(c == '\n' && s.afterReturn) then s.breaks + 1 else s.breaks
  afterReturn := c == '\r'

/-- Reads all of `cs`. -/
def Scan.run (s : Scan) (cs : List Char) : Scan :=
  cs.foldl Scan.step s

/-- Reading a text in two parts is reading it at once. -/
theorem Scan.run_append (s : Scan) (as bs : List Char) : s.run (as ++ bs) = (s.run as).run bs :=
  List.foldl_append ..

theorem Scan.breaks_le_step (s : Scan) (c : Char) : s.breaks ≤ (s.step c).breaks := by
  simp only [Scan.step]
  split <;> omega

/-- Reading on never takes a break back. -/
theorem Scan.breaks_le_run (s : Scan) (cs : List Char) : s.breaks ≤ (s.run cs).breaks := by
  induction cs generalizing s with
  | nil => exact Nat.le_refl _
  | cons c cs ih => exact Nat.le_trans (s.breaks_le_step c) (ih _)

/-- The number of lines of a text, the one after the last break included. -/
def lineCount (text : String) : Nat :=
  (Scan.run {} text.toList).breaks + 1

end MarkerStrip.Text
