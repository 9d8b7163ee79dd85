/-
  What a scanner leaves.

  Every scanner takes what it reads off the front of a text, so what remains is
  never longer (`Scanner.Shortens`); a line takes at least one character
  (`length_lt_of_line`).
-/
import Mathlib.Data.List.TakeDrop
import MarkerStrip.Toml.Document

namespace MarkerStrip.Toml

/-- What remains is no longer than what was there. -/
def Scanner.Shortens {α : Type} (read : Scanner α) : Prop :=
  ∀ {s a r}, read s = some (a, r) → r.length ≤ s.length

/-! ## Blanks and comments -/

theorem length_skipBlanks_le (s : List Char) : (skipBlanks s).length ≤ s.length :=
  (List.dropWhile_suffix _).length_le

theorem length_gap_le {inComment : Bool} {s r : List Char} (h : gap inComment s = some r) :
    r.length ≤ s.length := by
  fun_induction gap inComment s <;> grind

theorem length_lineEnd_le {s r : List Char} (h : lineEnd s = some r) : r.length ≤ s.length := by
  have blanks := length_skipBlanks_le s
  have comment (r : List Char) : (r.dropWhile isText).length ≤ r.length :=
    (List.dropWhile_suffix _).length_le
  grind [lineEnd]

/-! ## Strings -/

theorem prepend_eq_some_iff {c : Char} {read : Option (List Char × List Char)} {cs r : List Char} :
    prepend c read = some (cs, r) ↔ ∃ cs', read = some (cs', r) ∧ c :: cs' = cs := by
  simp [prepend]

theorem basicBody_shortens : Scanner.Shortens basicBody := by
  intro s cs r h
  fun_induction basicBody s generalizing cs <;> try simp only [List.length_cons]
  all_goals grind [prepend_eq_some_iff, Option.bind_eq_some_iff]

theorem literalBody_shortens : Scanner.Shortens literalBody := by
  intro s cs r h
  fun_induction literalBody s generalizing cs <;> grind [prepend_eq_some_iff]

theorem length_closing_le (q : Char) (r : List Char) : (closing q r).2.length ≤ r.length := by
  simp [closing]

theorem multilineBody_shortens (fold : Fold) : Scanner.Shortens (multilineBody fold) := by
  intro s cs r h
  fun_induction multilineBody fold s generalizing cs <;> try simp only [List.length_cons]
  all_goals grind [prepend_eq_some_iff, Option.bind_eq_some_iff, length_closing_le]

theorem multilineLiteralBody_shortens : Scanner.Shortens multilineLiteralBody := by
  intro s cs r h
  fun_induction multilineLiteralBody s generalizing cs <;>
    grind [prepend_eq_some_iff, length_closing_le]

theorem length_skipLineEnd_le (s : List Char) : (skipLineEnd s).length ≤ s.length := by
  fun_cases skipLineEnd s <;> grind

theorem read_of_toText {read : Option (List Char × List Char)} {k : String} {r : List Char}
    (h : toText read = some (k, r)) : ∃ cs, read = some (cs, r) := by
  obtain ⟨⟨cs, r'⟩, h, same⟩ := Option.map_eq_some_iff.1 h
  cases same
  exact ⟨cs, h⟩

theorem string_shortens : Scanner.Shortens string := by
  intro s k r h
  rw [string.eq_def] at h
  split at h
  · next s =>
    obtain ⟨cs, h⟩ := read_of_toText h
    have body := multilineBody_shortens .inText h
    have lineEnd := length_skipLineEnd_le s
    grind
  · obtain ⟨cs, h⟩ := read_of_toText h
    exact Nat.le_succ_of_le (basicBody_shortens h)
  · next s =>
    obtain ⟨cs, h⟩ := read_of_toText h
    have body := multilineLiteralBody_shortens h
    have lineEnd := length_skipLineEnd_le s
    grind
  · obtain ⟨cs, h⟩ := read_of_toText h
    exact Nat.le_succ_of_le (literalBody_shortens h)
  · cases h

/-! ## Keys -/

theorem length_lt_of_keyPart {s r : List Char} {k : String} (h : keyPart s = some (k, r)) :
    r.length < s.length := by
  rw [keyPart.eq_def] at h
  split at h
  · obtain ⟨cs, h⟩ := read_of_toText h
    exact Nat.lt_succ_of_le (basicBody_shortens h)
  · obtain ⟨cs, h⟩ := read_of_toText h
    exact Nat.lt_succ_of_le (literalBody_shortens h)
  · rw [List.span_eq_takeWhile_dropWhile] at h
    have parted := congrArg List.length (List.takeWhile_append_dropWhile (p := isBare) (l := s))
    rw [List.length_append] at parted
    split at h
    · cases h
    · next taken rest nonempty split =>
      cases h
      obtain ⟨rfl, rfl⟩ := Prod.mk.inj split
      have pos := List.length_pos_iff.2 nonempty
      omega

theorem length_lt_of_keyParts {n : Nat} {s r : List Char} {path : List String}
    (h : keyParts n s = some (path, r)) : r.length < s.length := by
  induction n generalizing s path with
  | zero => cases h
  | succ n ih =>
    obtain ⟨⟨k, r₁⟩, part, h⟩ := Option.bind_eq_some_iff.1 h
    have first := length_lt_of_keyPart part
    have blanks := length_skipBlanks_le r₁
    dsimp only at h
    split at h
    · next r₂ after =>
      rw [after] at blanks
      obtain ⟨⟨ks, r₃⟩, more, same⟩ := Option.map_eq_some_iff.1 h
      cases same
      have rest := ih more
      have blanks₂ := length_skipBlanks_le r₂
      grind
    · grind

/-! ## Values -/

theorem length_scalarText_le (s : List Char) : (scalarText s).2.length ≤ s.length := by
  fun_induction scalarText s <;> grind

theorem scalar_shortens : Scanner.Shortens scalar := by
  intro s v r h
  obtain ⟨w, -, same⟩ := Option.map_eq_some_iff.1 h
  cases same
  exact length_scalarText_le s

theorem length_lt_of_afterEquals {s r : List Char} (h : afterEquals s = some r) :
    r.length < s.length := by
  fun_cases afterEquals s <;> grind [afterEquals]

section
variable {value : Scanner Value} (shortens : value.Shortens)
include shortens

theorem items_shortens (n : Nat) : Scanner.Shortens (items value n) := by
  intro s vs r h
  induction n generalizing s vs with
  | zero => cases h
  | succ n ih =>
    obtain ⟨s₁, skipped, h⟩ := Option.bind_eq_some_iff.1 h
    have first := length_gap_le skipped
    dsimp only at h
    split at h
    · grind
    · next s₁ =>
      obtain ⟨⟨v, r₁⟩, item, h⟩ := Option.bind_eq_some_iff.1 h
      have read := shortens item
      obtain ⟨s₂, skipped₂, h⟩ := Option.bind_eq_some_iff.1 h
      have second := length_gap_le skipped₂
      dsimp only at h
      split at h
      · obtain ⟨⟨vs', r₂⟩, more, same⟩ := Option.bind_eq_some_iff.1 h
        cases same
        have rest := ih more
        grind
      · grind
      · cases h

theorem entries_shortens (n : Nat) (t : Tree) : Scanner.Shortens (entries value n t) := by
  intro s t' r h
  induction n generalizing s t with
  | zero => cases h
  | succ n ih =>
    obtain ⟨s₁, skipped, h⟩ := Option.bind_eq_some_iff.1 h
    have first := length_gap_le skipped
    dsimp only at h
    split at h
    · grind
    · next s₁ =>
      obtain ⟨⟨path, r₁⟩, key, h⟩ := Option.bind_eq_some_iff.1 h
      have named := length_lt_of_keyParts key
      obtain ⟨s₂, skipped₂, h⟩ := Option.bind_eq_some_iff.1 h
      have second := length_gap_le skipped₂
      obtain ⟨s₃, equals, h⟩ := Option.bind_eq_some_iff.1 h
      have sign := length_lt_of_afterEquals equals
      obtain ⟨s₄, skipped₄, h⟩ := Option.bind_eq_some_iff.1 h
      have third := length_gap_le skipped₄
      obtain ⟨⟨v, r₂⟩, item, h⟩ := Option.bind_eq_some_iff.1 h
      have read := shortens item
      obtain ⟨t₁, -, h⟩ := Option.bind_eq_some_iff.1 h
      obtain ⟨s₅, skipped₅, h⟩ := Option.bind_eq_some_iff.1 h
      have fourth := length_gap_le skipped₅
      split at h
      · have rest := ih t₁ h
        grind
      · grind
      · cases h

end

theorem value_shortens (depth : Nat) : Scanner.Shortens (value depth) := by
  induction depth using Nat.strongRecOn with
  | ind depth ih =>
    intro s v r h
    rw [value.eq_def] at h
    split at h
    · split at h
      · cases h
      · next depth =>
        obtain ⟨⟨vs, r₁⟩, inside, same⟩ := Option.map_eq_some_iff.1 h
        cases same
        exact Nat.le_succ_of_le (items_shortens (ih depth depth.lt_succ_self) _ inside)
    · split at h
      · cases h
      · next depth =>
        obtain ⟨⟨t, r₁⟩, inside, same⟩ := Option.map_eq_some_iff.1 h
        cases same
        exact Nat.le_succ_of_le (entries_shortens (ih depth depth.lt_succ_self) _ _ inside)
    · obtain ⟨⟨k, r₁⟩, text, same⟩ := Option.map_eq_some_iff.1 h
      cases same
      exact string_shortens text
    · obtain ⟨⟨k, r₁⟩, text, same⟩ := Option.map_eq_some_iff.1 h
      cases same
      exact string_shortens text
    · exact scalar_shortens h

/-! ## Lines -/

/-- **A line takes something off the front.** -/
theorem length_lt_of_line {s r : List Char} {l : Line} (h : line s = some (l, r)) :
    r.length < s.length := by
  rw [line.eq_def] at h
  split at h
  · next s =>
    obtain ⟨⟨path, r₁⟩, key, h⟩ := Option.bind_eq_some_iff.1 h
    have named := length_lt_of_keyParts key
    have blanks := length_skipBlanks_le s
    split at h
    · obtain ⟨r₂, ended, same⟩ := Option.bind_eq_some_iff.1 h
      cases same
      have rest := length_lineEnd_le ended
      grind
    · cases h
  · next s _ =>
    obtain ⟨⟨path, r₁⟩, key, h⟩ := Option.bind_eq_some_iff.1 h
    have named := length_lt_of_keyParts key
    have blanks := length_skipBlanks_le s
    split at h
    · obtain ⟨r₂, ended, same⟩ := Option.bind_eq_some_iff.1 h
      cases same
      have rest := length_lineEnd_le ended
      grind
    · cases h
  · obtain ⟨⟨path, r₁⟩, key, h⟩ := Option.bind_eq_some_iff.1 h
    have named := length_lt_of_keyParts key
    obtain ⟨r₂, equals, h⟩ := Option.bind_eq_some_iff.1 h
    have sign := length_lt_of_afterEquals equals
    obtain ⟨⟨v, r₃⟩, item, h⟩ := Option.bind_eq_some_iff.1 h
    have read := value_shortens maxDepth item
    have blanks := length_skipBlanks_le r₂
    obtain ⟨r₄, ended, same⟩ := Option.bind_eq_some_iff.1 h
    cases same
    have rest := length_lineEnd_le ended
    omega

end MarkerStrip.Toml
