/-
  Dictionaries: entries in ascending order of their keys.

  Keys are compared by code points, which is also the order of their UTF-8
  bytes.  No key is there twice (`Dict.Ordered`).

  * `Dict.get?_insert_self` and `Dict.get?_insert_of_ne`: storing a value
    changes what is found under its key, and nothing else;
  * `Dict.Ordered.insert`: storing keeps the keys ascending.
-/

namespace MarkerStrip.Data

/-- Entries by key. -/
abbrev Dict (α : Type) := List (String × α)

namespace Dict

variable {α : Type}

/-- The keys ascend, so none is there twice. -/
def Ordered (d : Dict α) : Prop :=
  d.Pairwise fun a b => a.1 < b.1

/-- The value under a key. -/
def get? (d : Dict α) (key : String) : Option α :=
  List.lookup key d

/-- Stores a value under a key, in the place of the one that was there. -/
def insert (d : Dict α) (key : String) (value : α) : Dict α :=
  match d with
  | [] => [(key, value)]
  | (k, v) :: rest =>
    if key < k then (key, value) :: (k, v) :: rest
    else if k < key then (k, v) :: insert rest key value
    else (key, value) :: rest

/-- What was stored is found. -/
theorem get?_insert_self (d : Dict α) (key : String) (value : α) :
    get? (insert d key value) key = some value := by
  induction d with
  | nil => simp [insert, get?]
  | cons e d ih =>
    obtain ⟨k, v⟩ := e
    simp only [insert]
    split
    · simp [get?]
    · split
      · next h =>
        have hne : (key == k) = false := by
          simpa using fun he : key = k => String.lt_irrefl k (he ▸ h)
        simpa [get?, List.lookup_cons, hne] using ih
      · simp [get?]

/-- Storing under one key leaves the others alone. -/
theorem get?_insert_of_ne (d : Dict α) {key k : String} (value : α) (h : k ≠ key) :
    get? (insert d key value) k = get? d k := by
  have hk : (k == key) = false := by simpa using h
  induction d with
  | nil => simp [insert, get?, List.lookup_cons, hk]
  | cons e d ih =>
    obtain ⟨k', v⟩ := e
    simp only [insert]
    split
    · simp [get?, List.lookup_cons, hk]
    · split
      · simp only [get?, List.lookup_cons] at ih ⊢
        split <;> simp_all
      · next h₁ h₂ =>
        have he : key = k' := String.le_antisymm (String.not_lt.1 h₂) (String.not_lt.1 h₁)
        subst he
        simp [get?, List.lookup_cons, hk]

/-- Every entry is the stored one or was there before. -/
theorem mem_of_mem_insert {d : Dict α} {key : String} {value : α} {e : String × α}
    (h : e ∈ insert d key value) : e = (key, value) ∨ e ∈ d := by
  induction d with
  | nil => simpa [insert] using h
  | cons e' d ih =>
    obtain ⟨k, v⟩ := e'
    simp only [insert] at h
    split at h
    · simpa using h
    · split at h
      · rcases List.mem_cons.1 h with h | h
        · exact .inr (h ▸ List.mem_cons_self)
        · exact (ih h).imp_right (List.mem_cons_of_mem _)
      · rcases List.mem_cons.1 h with h | h
        · exact .inl h
        · exact .inr (List.mem_cons_of_mem _ h)

/-- Storing keeps the keys ascending. -/
theorem Ordered.insert {d : Dict α} (hd : d.Ordered) (key : String) (value : α) :
    (Dict.insert d key value).Ordered := by
  induction d with
  | nil => simp [Dict.insert, Ordered]
  | cons e d ih =>
    obtain ⟨k, v⟩ := e
    obtain ⟨h₁, h₂⟩ := List.pairwise_cons.1 hd
    simp only [Dict.insert]
    split
    · next h =>
      refine List.pairwise_cons.2 ⟨fun e he => ?_, hd⟩
      rcases List.mem_cons.1 he with rfl | he
      · exact h
      · exact String.lt_trans h (h₁ e he)
    · split
      · next h =>
        refine List.pairwise_cons.2 ⟨fun e he => ?_, ih h₂⟩
        rcases mem_of_mem_insert he with rfl | he
        · exact h
        · exact h₁ e he
      · next h h' =>
        have he : key = k := String.le_antisymm (String.not_lt.1 h') (String.not_lt.1 h)
        subst he
        exact List.pairwise_cons.2 ⟨h₁, h₂⟩

end Dict

end MarkerStrip.Data
