/-
  Dictionaries, and decoders that go through one entry by entry.

  * `lt_iff_bytes_lt`: keys are in the order of their bytes;
  * `Dict.eq_of_get?`: a dictionary is what is found under its keys;
  * `Decodes`: a decoder takes a value or refuses it, and both are said by
    relations that know nothing of it;
  * `Dict.collect` goes through the entries.  Where an entry by itself decides
    whether a step fails and why (`Dict.Judges`), the fault is that of the
    least key that has one (`Dict.Judges.collect_eq_error_iff`), and what the
    decoder leaves in one place comes from one key (`Dict.read_collect`).
-/
import Mathlib.Data.List.Sort
import Mathlib.Tactic.SplitIfs
import MarkerStrip.Data.Dict

namespace MarkerStrip.Data

/-! ## Bytes of keys -/

/-- The bytes of a text in UTF-8. -/
def bytes (s : String) : List UInt8 := s.toUTF8.data.toList

theorem bytes_eq (s : String) : bytes s = s.toList.flatMap String.utf8EncodeChar := by
  rw [bytes, String.toUTF8, ← String.utf8Encode_toList, List.utf8Encode]
  simp

theorem cons_lt_cons_of_le {a b : Nat} {u v : List UInt8} (small : b < 256) (le : a ≤ b)
    (rest : a = b → u < v) : UInt8.ofNat a :: u < UInt8.ofNat b :: v := by
  rw [List.cons_lt_cons_iff]
  rcases Nat.lt_or_eq_of_le le with lt | rfl
  · left
    rw [UInt8.lt_iff_toNat_lt, UInt8.toNat_ofNat_of_lt' (Nat.lt_of_le_of_lt le small),
      UInt8.toNat_ofNat_of_lt' small]
    exact lt
  · exact .inr ⟨rfl, rest rfl⟩

/-- The bytes of a lesser character are less, whatever comes after. -/
theorem utf8EncodeChar_append_lt {c d : Char} (h : c < d) (u v : List UInt8) :
    String.utf8EncodeChar c ++ u < String.utf8EncodeChar d ++ v := by
  have below : c.val.toNat < d.val.toNat := h
  have last : d.val.toNat < 1114112 := by
    rcases d.valid with h | h
    · exact Nat.lt_trans h (by decide)
    · exact h.2
  unfold String.utf8EncodeChar
  generalize c.val.toNat = m at below
  generalize d.val.toNat = n at below last
  clear h
  dsimp only
  -- A first byte that begins more bytes is greater, so sequences of different length differ there.
  split_ifs
  all_goals
    repeat refine cons_lt_cons_of_le (by omega) (by omega) fun _ => ?_
    omega

theorem flatMap_lt {s t : List Char} (h : s < t) :
    s.flatMap String.utf8EncodeChar < t.flatMap String.utf8EncodeChar := by
  induction s generalizing t with
  | nil =>
    cases t with
    | nil => exact absurd h (List.lt_irrefl _)
    | cons d t =>
      obtain ⟨b, rest, first⟩ := List.exists_cons_of_ne_nil (String.utf8EncodeChar_ne_nil (c := d))
      rw [List.flatMap_cons, first]
      exact List.nil_lt_cons _ _
  | cons c s ih =>
    cases t with
    | nil => exact absurd h (List.not_lt_nil _)
    | cons d t =>
      rw [List.flatMap_cons, List.flatMap_cons]
      rcases List.cons_lt_cons_iff.1 h with lt | ⟨rfl, lt⟩
      · exact utf8EncodeChar_append_lt lt _ _
      · exact List.append_left_lt (ih lt)

/-- **The order of texts is that of their bytes.** -/
theorem lt_iff_bytes_lt {s t : String} : s < t ↔ bytes s < bytes t := by
  have keeps {s t : String} (h : s < t) : bytes s < bytes t := by
    rw [bytes_eq, bytes_eq]
    exact flatMap_lt (String.lt_iff.1 h)
  refine ⟨keeps, fun h => ?_⟩
  by_contra not_lt
  by_cases gt : t < s
  · exact List.lt_asymm h (keeps gt)
  · have same := String.le_antisymm (String.not_lt.1 gt) (String.not_lt.1 not_lt)
    exact List.lt_irrefl (bytes t) (same ▸ h)

/-! ## Looking up -/

namespace Dict

variable {α : Type} {d d' : Dict α} {key k : String} {v : α}

theorem get?_cons : get? ((k, v) :: d) key = if key = k then some v else get? d key := by
  rw [get?, List.lookup_cons]
  by_cases h : key = k
  · simp [h]
  · have differ : (key == k) = false := beq_false_of_ne h
    simp [h, differ, get?]

theorem mem_of_get? (h : d.get? key = some v) : (key, v) ∈ d := by
  induction d with
  | nil => cases h
  | cons e d ih =>
    obtain ⟨k, w⟩ := e
    rw [get?_cons] at h
    split at h
    · next same =>
      cases h
      rw [same]
      exact List.mem_cons_self
    · exact List.mem_cons_of_mem _ (ih h)

theorem Ordered.lt_of_get? {w : α} (ordered : Ordered ((k, v) :: d)) (h : d.get? key = some w) :
    k < key :=
  (List.pairwise_cons.1 ordered).1 _ (mem_of_get? h)

theorem Ordered.tail (ordered : Ordered ((k, v) :: d)) : d.Ordered :=
  (List.pairwise_cons.1 ordered).2

theorem Ordered.get?_tail (ordered : Ordered ((k, v) :: d)) : d.get? k = none := by
  rw [Option.eq_none_iff_forall_not_mem]
  intro w h
  exact String.lt_irrefl k (ordered.lt_of_get? h)

theorem get?_eq_some_iff (ordered : d.Ordered) : d.get? key = some v ↔ (key, v) ∈ d := by
  refine ⟨mem_of_get?, fun h => ?_⟩
  induction d with
  | nil => cases h
  | cons e d ih =>
    obtain ⟨k, w⟩ := e
    rw [get?_cons]
    rcases List.mem_cons.1 h with same | behind
    · cases same
      exact if_pos rfl
    · have found := ih ordered.tail behind
      have less := ordered.lt_of_get? found
      rw [if_neg, found]
      rintro rfl
      exact String.lt_irrefl _ less

/-- **A dictionary is what is found under its keys.** -/
theorem eq_of_get? (ordered : d.Ordered) (ordered' : d'.Ordered)
    (same : ∀ key, d.get? key = d'.get? key) : d = d' := by
  have : Std.Irrefl fun a b : String × α => a.1 < b.1 := ⟨fun _ => String.lt_irrefl _⟩
  have : Std.Antisymm fun a b : String × α => a.1 < b.1 :=
    ⟨fun _ _ h h' => absurd h' (String.lt_asymm h)⟩
  refine List.Pairwise.eq_of_mem_iff ordered ordered' fun (key, v) => ?_
  rw [← get?_eq_some_iff ordered, ← get?_eq_some_iff ordered', same]

end Dict

/-- A list of names in which every name has another key finds the name of a key. -/
theorem find?_key_eq_some_iff {φ : Type} {all : List φ} {key : φ → String} {k : String} {f : φ}
    (distinct : ∀ {f g}, key f = key g → f = g) (mem : f ∈ all) :
    all.find? (fun g => key g == k) = some f ↔ key f = k := by
  constructor
  · intro h
    exact eq_of_beq (List.find?_some (p := fun g => key g == k) h)
  · rintro rfl
    cases h : all.find? fun g => key g == key f with
    | none => exact absurd (beq_self_eq_true (key f)) (List.find?_eq_none.1 h f mem)
    | some g =>
      have same : (key g == key f) = true := List.find?_some (p := fun g => key g == key f) h
      rw [distinct (eq_of_beq same)]

/-! ## Decoders -/

/-- A decoder that takes values for what `Takes` says, and refuses all others as `Refuses` says. -/
structure Decodes {α β ε : Type} (read : α → Except ε β) (Takes : α → β → Prop)
    (Refuses : α → ε → Prop) : Prop where
  taken : ∀ {v x}, Takes v x → read v = .ok x
  refused : ∀ {v e}, Refuses v e → read v = .error e
  total : ∀ v, (∃ x, Takes v x) ∨ ∃ e, Refuses v e

namespace Decodes

variable {α β ε : Type} {read : α → Except ε β} {Takes : α → β → Prop} {Refuses : α → ε → Prop}
variable {v : α} {x y : β} {e : ε} (decodes : Decodes read Takes Refuses)
include decodes

theorem eq_ok_iff : read v = .ok x ↔ Takes v x := by
  refine ⟨fun h => ?_, decodes.taken⟩
  obtain ⟨y, takes⟩ | ⟨e, refuses⟩ := decodes.total v
  · rw [decodes.taken takes] at h
    cases h
    exact takes
  · rw [decodes.refused refuses] at h
    cases h

theorem eq_error_iff : read v = .error e ↔ Refuses v e := by
  refine ⟨fun h => ?_, decodes.refused⟩
  obtain ⟨y, takes⟩ | ⟨e', refuses⟩ := decodes.total v
  · rw [decodes.taken takes] at h
    cases h
  · rw [decodes.refused refuses] at h
    cases h
    exact refuses

theorem unique (takes : Takes v x) (takes' : Takes v y) : x = y := by
  have h := decodes.taken takes
  rw [decodes.taken takes'] at h
  exact (Except.ok.inj h).symm

theorem not_refuses (takes : Takes v x) : ¬Refuses v e := by
  intro refuses
  have h := decodes.taken takes
  rw [decodes.refused refuses] at h
  cases h

end Decodes

/-! ## Entry by entry -/

namespace Dict

variable {σ α ε : Type} {step : σ → String → α → Except ε σ} {Refuses : String → α → ε → Prop}
variable {d : Dict α} {s s' : σ} {e : ε}

/-- Takes a step for every entry, until one fails. -/
def collect (step : σ → String → α → Except ε σ) (s : σ) (d : Dict α) : Except ε σ :=
  d.foldlM (fun s (k, v) => step s k v) s

theorem collect_cons (s : σ) (k : String) (v : α) (d : Dict α) :
    collect step s ((k, v) :: d) =
      match step s k v with
      | .ok s => collect step s d
      | .error e => .error e := by
  show (step s k v >>= fun s => collect step s d) = _
  cases step s k v <;> rfl

/-- No entry is refused. -/
def Admits (Refuses : String → α → ε → Prop) (d : Dict α) : Prop :=
  ∀ k v, d.get? k = some v → ∀ e, ¬Refuses k v e

/-- Of the entries that are refused, the one with the least key is refused with the fault `e`. -/
def FirstRefused (Refuses : String → α → ε → Prop) (d : Dict α) (e : ε) : Prop :=
  ∃ k v, d.get? k = some v ∧ Refuses k v e ∧
    ∀ k' v', bytes k' < bytes k → d.get? k' = some v' → ∀ e', ¬Refuses k' v' e'

theorem FirstRefused.cons {k : String} {v : α} (ordered : Ordered ((k, v) :: d))
    (fine : ∀ e, ¬Refuses k v e) :
    FirstRefused Refuses ((k, v) :: d) e ↔ FirstRefused Refuses d e := by
  have behind {key : String} {w : α} (h : d.get? key = some w) :
      get? ((k, v) :: d) key = some w := by
    rw [get?_cons, if_neg, h]
    rintro rfl
    exact String.lt_irrefl _ (ordered.lt_of_get? h)
  have front {key : String} {w : α} {e : ε} (h : get? ((k, v) :: d) key = some w)
      (refused : Refuses key w e) : d.get? key = some w := by
    rw [get?_cons] at h
    split at h
    · next same =>
      cases h
      exact absurd (same ▸ refused) (fine e)
    · exact h
  constructor
  · rintro ⟨key, w, found, refused, first⟩
    exact ⟨key, w, front found refused, refused, fun k' v' less h => first k' v' less (behind h)⟩
  · rintro ⟨key, w, found, refused, first⟩
    refine ⟨key, w, behind found, refused, fun k' v' less h e' refused' => ?_⟩
    exact first k' v' less (front h refused') e' refused'

theorem Admits.congr {d' : Dict α} (admits : Admits Refuses d)
    (same : ∀ k v e, Refuses k v e → d.get? k = d'.get? k) : Admits Refuses d' := by
  intro k v found e refused
  rw [← same k v e refused] at found
  exact admits k v found e refused

theorem FirstRefused.congr {d' : Dict α} (h : FirstRefused Refuses d e)
    (same : ∀ k v e, Refuses k v e → d.get? k = d'.get? k) : FirstRefused Refuses d' e := by
  obtain ⟨k, v, found, refused, first⟩ := h
  refine ⟨k, v, same k v e refused ▸ found, refused, fun k' v' less found' e' refused' => ?_⟩
  rw [← same k' v' e' refused'] at found'
  exact first k' v' less found' e' refused'

/-- An entry is refused as `Refuses` says, whatever came before it. -/
def Judges (step : σ → String → α → Except ε σ) (Refuses : String → α → ε → Prop) : Prop :=
  ∀ s k v e, step s k v = .error e ↔ Refuses k v e

namespace Judges

variable (judges : Judges step Refuses)
include judges

/-- **The fault is that of the least key that has one.** -/
theorem collect_eq_error_iff (ordered : d.Ordered) :
    collect step s d = .error e ↔ FirstRefused Refuses d e := by
  induction d generalizing s with
  | nil =>
    constructor
    · intro h
      cases h
    · rintro ⟨k, v, found, -⟩
      cases found
  | cons entry d ih =>
    obtain ⟨k, v⟩ := entry
    rw [collect_cons]
    split
    · next s' taken =>
      have fine (e : ε) : ¬Refuses k v e := by
        intro refused
        rw [(judges s k v e).2 refused] at taken
        cases taken
      rw [ih ordered.tail, FirstRefused.cons ordered fine]
    · next e₀ failed =>
      have refused := (judges s k v e₀).1 failed
      constructor
      · intro h
        cases h
        refine ⟨k, v, by rw [get?_cons, if_pos rfl], refused, fun k' v' less h e' => ?_⟩
        rw [get?_cons, if_neg] at h
        · exact absurd (ordered.lt_of_get? h) (String.lt_asymm (lt_iff_bytes_lt.2 less))
        · rintro rfl
          exact List.lt_irrefl _ less
      · -- the least key is the first one, as that is refused and all others are greater
        rintro ⟨key, w, found, refused', first⟩
        rw [get?_cons] at found
        split at found
        · next same =>
          cases found
          rw [same] at refused'
          rw [← failed, judges]
          exact refused'
        · have less := lt_iff_bytes_lt.1 (ordered.lt_of_get? found)
          exact absurd refused (first k v less (by rw [get?_cons, if_pos rfl]) e₀)

theorem admits (done : collect step s d = .ok s') : Admits Refuses d := by
  induction d generalizing s with
  | nil =>
    intro k v found
    cases found
  | cons entry d ih =>
    obtain ⟨k, v⟩ := entry
    rw [collect_cons] at done
    split at done
    · next s₁ taken =>
      intro key w found e refused
      rw [get?_cons] at found
      split at found
      · next same =>
        cases found
        rw [same, ← judges s k v e, taken] at refused
        cases refused
      · exact ih done key w found e refused
    · cases done

/-- **A dictionary is decoded iff no entry is refused.** -/
theorem exists_collect_iff (ordered : d.Ordered) :
    (∃ s', collect step s d = .ok s') ↔ Admits Refuses d := by
  refine ⟨fun ⟨s', done⟩ => judges.admits done, fun admits => ?_⟩
  cases h : collect step s d with
  | error e =>
    obtain ⟨k, v, found, refused, -⟩ := (judges.collect_eq_error_iff ordered).1 h
    exact absurd refused (admits k v found e)
  | ok s' => exact ⟨s', rfl⟩

end Judges

/-- **What is left in one place is what the entry of one key puts there.** -/
theorem read_collect {β : Type} (read : σ → β) {key : String} (Puts : α → β → Prop)
    (own : ∀ {s s' v}, step s key v = .ok s' → Puts v (read s'))
    (other : ∀ {s s' k v}, k ≠ key → step s k v = .ok s' → read s' = read s)
    (ordered : d.Ordered) (done : collect step s d = .ok s') :
    (∀ v, d.get? key = some v → Puts v (read s')) ∧ (d.get? key = none → read s' = read s) := by
  induction d generalizing s with
  | nil =>
    cases done
    exact ⟨nofun, fun _ => rfl⟩
  | cons entry d ih =>
    obtain ⟨k, v⟩ := entry
    rw [collect_cons] at done
    split at done
    · next s₁ taken =>
      obtain ⟨found, absent⟩ := ih ordered.tail done
      simp only [get?_cons]
      split_ifs with same
      · subst same
        refine ⟨?_, nofun⟩
        intro w here
        cases here
        -- The key is not met again, so the rest leaves the place alone.
        rw [absent ordered.get?_tail]
        exact own taken
      · refine ⟨found, fun none => ?_⟩
        rw [absent none, other (Ne.symm same) taken]
    · cases done

end Dict

end MarkerStrip.Data
