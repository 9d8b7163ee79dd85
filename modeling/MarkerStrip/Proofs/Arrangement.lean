/-
  The entries of a document, and their order.

  * `Lists text es`: the document consists of the entries `es`, in this order;
  * `Lists.parse?_eq_some_iff`: it is well formed iff no key is there twice,
    and then its table is what the entries say, so their order does not matter
    (`Lists.parse?_eq_of_perm`);
  * `exists_lists_of_parse?`: a document whose table holds no tables and no
    lists consists of entries.
-/
import MarkerStrip.Proofs.Dictionary
import MarkerStrip.Proofs.Scanner

namespace MarkerStrip.Toml

open Data (Dict)

/-! ## Trees -/

namespace Tree

variable {t t' : Tree} {key k : String} {n : Node} {v : Value} {path : List String}

theorem lookup_cons : List.lookup key ((k, n) :: t) = if key = k then some n else t.lookup key :=
  Dict.get?_cons

theorem lookup_put : (t.put key n).lookup k = if k = key then some n else t.lookup k := by
  induction t with
  | nil => rw [put, lookup_cons]
  | cons e t ih =>
    obtain ⟨k', m⟩ := e
    by_cases here : k' = key
    · subst here
      rw [put, if_pos (beq_self_eq_true k'), lookup_cons, lookup_cons]
      split_ifs <;> rfl
    · rw [put, if_neg (by simpa using here), lookup_cons, lookup_cons, ih]
      split_ifs with first second
      · exact absurd (first.symm.trans second) here
      all_goals rfl

theorem put_of_lookup_eq_none (new : t.lookup key = none) : t.put key n = t ++ [(key, n)] := by
  induction t with
  | nil => rfl
  | cons e t ih =>
    obtain ⟨k, m⟩ := e
    rw [lookup_cons] at new
    split_ifs at new with same
    have other : ¬(k == key) = true := by simpa using Ne.symm same
    rw [put, if_neg other, ih new, List.cons_append]

theorem get?_toTable : Dict.get? (toTable t) key = (t.lookup key).map Node.toValue := by
  induction t with
  | nil => rfl
  | cons e t ih =>
    obtain ⟨k, n⟩ := e
    rw [toTable, lookup_cons]
    split_ifs with same
    · rw [same, Dict.get?_insert_self, Option.map_some]
    · rw [Dict.get?_insert_of_ne _ _ same, ih]

/-! ## Branches -/

/-- Some key stands for a table or a list of tables that lines of the document build. -/
def Branches (t : Tree) : Prop := ∃ k n, t.lookup k = some n ∧ ∀ v, n ≠ .value v

theorem branches_put_table (other : ∀ v, n ≠ .value v) : (t.put key n).Branches :=
  ⟨key, n, by rw [lookup_put, if_pos rfl], other⟩

theorem Branches.put (branches : t.Branches) (new : t.lookup key = none) :
    (t.put key n).Branches := by
  obtain ⟨k, m, found, other⟩ := branches
  refine ⟨k, m, ?_, other⟩
  rw [lookup_put, if_neg, found]
  rintro rfl
  rw [new] at found
  cases found

theorem assign_cases (done : t.assign v path = some t') :
    t'.Branches ∨ ∃ key, path = [key] ∧ t.lookup key = none ∧ t' = t.put key (.value v) := by
  rw [assign.eq_def] at done
  split at done
  · cases done
  · next key =>
    split_ifs at done with present
    cases done
    exact .inr ⟨key, rfl, Option.not_isSome_iff_eq_none.1 present, rfl⟩
  · left
    split at done
    · obtain ⟨sub, -, rfl⟩ := Option.map_eq_some_iff.1 done
      exact branches_put_table fun v => nofun
    · split_ifs at done
      obtain ⟨sub, -, rfl⟩ := Option.map_eq_some_iff.1 done
      exact branches_put_table fun v => nofun
    · split_ifs at done
      obtain ⟨sub, -, rfl⟩ := Option.map_eq_some_iff.1 done
      exact branches_put_table fun v => nofun
    · cases done

theorem branches_of_reach {change : Option Node → Option Node}
    (tables : ∀ n? n, change n? = some n → ∀ v, n ≠ .value v)
    (done : t.reach change path = some t') : t'.Branches := by
  rw [reach.eq_def] at done
  split at done
  · cases done
  · obtain ⟨n, changed, rfl⟩ := Option.map_eq_some_iff.1 done
    exact branches_put_table (tables _ _ changed)
  · split at done
    · obtain ⟨sub, -, rfl⟩ := Option.map_eq_some_iff.1 done
      exact branches_put_table fun v => nofun
    · obtain ⟨sub, -, rfl⟩ := Option.map_eq_some_iff.1 done
      exact branches_put_table fun v => nofun
    · obtain ⟨sub, -, rfl⟩ := Option.map_eq_some_iff.1 done
      exact branches_put_table fun v => nofun
    · cases done

end Tree

/-- A line adds one entry to the document's own table, or there is a branch in the end. -/
theorem Draft.add_cases {d d' : Draft} {l : Line} (done : d.add l = some d') :
    d'.tree.Branches ∨ d.header = [] ∧ d'.header = [] ∧
      ∃ k v, l = .assignment [k] v ∧ d.tree.lookup k = none ∧
        d'.tree = d.tree.put k (.value v) := by
  cases l with
  | header path =>
    obtain ⟨t, opened, rfl⟩ := Option.map_eq_some_iff.1 done
    refine .inl (Tree.branches_of_reach ?_ opened)
    intro n? n changed v
    split at changed <;> cases changed <;> nofun
  | itemHeader path =>
    obtain ⟨t, opened, rfl⟩ := Option.map_eq_some_iff.1 done
    refine .inl (Tree.branches_of_reach ?_ opened)
    intro n? n changed v
    split at changed <;> cases changed <;> nofun
  | assignment path v =>
    obtain ⟨t, assigned, rfl⟩ := Option.map_eq_some_iff.1 done
    rw [Tree.assignUnder] at assigned
    split at assigned
    · next top =>
      have top := List.isEmpty_iff.1 top
      rcases Tree.assign_cases assigned with branches | ⟨k, rfl, new, rfl⟩
      · exact .inl branches
      · exact .inr ⟨top, top, k, v, rfl, new, rfl⟩
    · refine .inl (Tree.branches_of_reach ?_ assigned)
      intro n? n changed v
      split at changed
      · obtain ⟨sub, -, rfl⟩ := Option.map_eq_some_iff.1 changed
        nofun
      · obtain ⟨sub, -, rfl⟩ := Option.map_eq_some_iff.1 changed
        nofun
      · cases changed

theorem branches_of_lines {n : Nat} {d d' : Draft} {s : List Char} (done : lines n d s = some d')
    (branches : d.tree.Branches) : d'.tree.Branches := by
  induction n generalizing d s with
  | zero => cases done
  | succ n ih =>
    obtain ⟨s, -, done⟩ := Option.bind_eq_some_iff.1 done
    split at done
    · cases done
      exact branches
    · obtain ⟨⟨l, r⟩, -, done⟩ := Option.bind_eq_some_iff.1 done
      obtain ⟨d₁, added, done⟩ := Option.bind_eq_some_iff.1 done
      refine ih done ?_
      rcases Draft.add_cases added with branches | ⟨-, -, k, v, -, new, grown⟩
      · exact branches
      · rw [grown]
        exact branches.put new

/-! ## Entries -/

/-- The text consists of the entries `es`, one after another: keys without dots and their values,
    and between them nothing that says something. -/
inductive Entries : List Char → List (String × Value) → Prop
  | nil {s : List Char} (done : gap false s = some []) : Entries s []
  | cons {s r rest : List Char} {c : Char} {k : String} {v : Value} {es : List (String × Value)}
      (skipped : gap false s = some (c :: r))
      (read : line (c :: r) = some (.assignment [k] v, rest)) (more : Entries rest es) :
      Entries s ((k, v) :: es)

/-- The document consists of the entries `es`. -/
def Lists (text : String) (es : List (String × Value)) : Prop :=
  Entries (skipMark text.toList) es

theorem exists_entries_of_lines {n : Nat} {d d' : Draft} {s : List Char}
    (done : lines n d s = some d') (top : d.header = []) (flat : ¬d'.tree.Branches) :
    ∃ es, Entries s es := by
  induction n generalizing d s with
  | zero => cases done
  | succ n ih =>
    obtain ⟨s₁, skipped, done⟩ := Option.bind_eq_some_iff.1 done
    split at done
    · exact ⟨[], .nil skipped⟩
    · next nonempty =>
      obtain ⟨c, r, rfl⟩ := List.exists_cons_of_ne_nil nonempty
      obtain ⟨⟨l, rest⟩, read, done⟩ := Option.bind_eq_some_iff.1 done
      obtain ⟨d₁, added, left⟩ := Option.bind_eq_some_iff.1 done
      -- A line of another kind would leave a branch, and there is none in the end.
      rcases Draft.add_cases added with branches | ⟨-, top, k, v, rfl, -, -⟩
      · exact absurd (branches_of_lines left branches) flat
      · obtain ⟨es, more⟩ := ih left top
        exact ⟨(k, v) :: es, .cons skipped read more⟩

/-- **A document whose table holds no tables and no lists consists of entries.** -/
theorem exists_lists_of_parse? {text : String} {t : Table} (parsed : parse? text = some t)
    (flat : ∀ k v, t.get? k = some v → (∀ t', v ≠ .table t') ∧ ∀ vs, v ≠ .array vs) :
    ∃ es, Lists text es := by
  obtain ⟨d, done, rfl⟩ := Option.map_eq_some_iff.1 parsed
  refine exists_entries_of_lines done rfl ?_
  rintro ⟨k, n, found, other⟩
  have stored : Dict.get? (Tree.toTable d.tree) k = some n.toValue := by
    rw [Tree.get?_toTable, found, Option.map_some]
  obtain ⟨noTable, noList⟩ := flat k n.toValue stored
  cases n with
  | value v => exact other v rfl
  | table origin sub => exact noTable _ (by rw [Node.toValue])
  | tables last earlier => exact noList _ (by rw [Node.toValue])

/-! ## Their order -/

/-- Adds entries to a tree. -/
def Tree.enter (t : Tree) : List (String × Value) → Option Tree
  | [] => some t
  | (k, v) :: es => (t.assign v [k]).bind fun t => enter t es

theorem Entries.lines_eq {s : List Char} {es : List (String × Value)} (entries : Entries s es)
    {n : Nat} (enough : s.length < n) (t : Tree) :
    lines n ⟨t, []⟩ s = (t.enter es).map fun t => ⟨t, []⟩ := by
  induction entries generalizing n t with
  | nil done =>
    obtain ⟨n, rfl⟩ := Nat.exists_eq_succ_of_ne_zero (Nat.ne_of_gt (Nat.zero_lt_of_lt enough))
    simp [lines, done, Tree.enter]
  | @cons s r rest c k v es skipped read more ih =>
    obtain ⟨n, rfl⟩ := Nat.exists_eq_succ_of_ne_zero (Nat.ne_of_gt (Nat.zero_lt_of_lt enough))
    -- An entry takes at least a character, so what remains has fewer lines than characters.
    have gap := length_gap_le skipped
    have taken := length_lt_of_line read
    have next := ih (n := n) (by omega)
    have added : (⟨t, []⟩ : Draft).add (.assignment [k] v) =
        (t.assign v [k]).map fun t => ⟨t, []⟩ := rfl
    simp only [lines, skipped, read, added, Tree.enter, Option.bind_eq_bind, Option.bind_some]
    cases t.assign v [k] with
    | none => rfl
    | some t => exact next t

namespace Tree

variable {t t' : Tree} {es : List (String × Value)}

theorem assign_singleton_eq_some_iff {k : String} {v : Value} :
    t.assign v [k] = some t' ↔ t.lookup k = none ∧ t' = t ++ [(k, .value v)] := by
  rw [assign]
  split_ifs with present
  · simp [Option.isSome_iff_ne_none.1 present]
  · have new := Option.not_isSome_iff_eq_none.1 present
    rw [put_of_lookup_eq_none new, Option.some_inj]
    exact ⟨fun same => ⟨new, same.symm⟩, fun ⟨_, same⟩ => same.symm⟩

theorem lookup_concat_eq_none_iff {k key : String} {n : Node} (new : t.lookup k = none) :
    List.lookup key (t ++ [(k, n)]) = none ↔ key ≠ k ∧ t.lookup key = none := by
  rw [← put_of_lookup_eq_none new, lookup_put]
  split_ifs with same <;> simp [same]

/-- Entries are added iff all keys are new, and then at the end. -/
theorem enter_eq_some_iff :
    t.enter es = some t' ↔ (es.map Prod.fst).Nodup ∧ (∀ e ∈ es, t.lookup e.1 = none) ∧
      t' = t ++ es.map fun e => (e.1, .value e.2) := by
  induction es generalizing t with
  | nil =>
    rw [enter, Option.some_inj, List.map_nil, List.map_nil, List.append_nil]
    exact ⟨fun same => ⟨.nil, nofun, same.symm⟩, fun ⟨_, _, same⟩ => same.symm⟩
  | cons e es ih =>
    obtain ⟨k, v⟩ := e
    rw [enter, Option.bind_eq_some_iff, List.map_cons, List.nodup_cons, List.forall_mem_cons]
    constructor
    · rintro ⟨t₁, added, entered⟩
      obtain ⟨new, rfl⟩ := assign_singleton_eq_some_iff.1 added
      obtain ⟨nodup, fresh, rfl⟩ := ih.1 entered
      simp only [lookup_concat_eq_none_iff new] at fresh
      refine ⟨⟨?_, nodup⟩, ⟨new, fun e h => (fresh e h).2⟩, by simp⟩
      rintro again
      obtain ⟨e, h, same⟩ := List.mem_map.1 again
      exact (fresh e h).1 same
    · rintro ⟨⟨once, nodup⟩, ⟨new, fresh⟩, rfl⟩
      refine ⟨_, assign_singleton_eq_some_iff.2 ⟨new, rfl⟩, ih.2 ⟨nodup, fun e h => ?_, by simp⟩⟩
      rw [lookup_concat_eq_none_iff new]
      exact ⟨fun same => once (same ▸ List.mem_map_of_mem h), fresh e h⟩

theorem get?_toTable_values {k : String} {v : Value} (nodup : (es.map Prod.fst).Nodup) :
    Dict.get? (toTable (es.map fun e => (e.1, .value e.2))) k = some v ↔ (k, v) ∈ es := by
  rw [get?_toTable]
  induction es with
  | nil => simp
  | cons e es ih =>
    obtain ⟨k', w⟩ := e
    obtain ⟨absent, distinct⟩ := List.nodup_cons.1 nodup
    rw [List.map_cons, lookup_cons, List.mem_cons]
    split_ifs with same
    · subst same
      have behind : (k, v) ∉ es := fun h => absent (List.mem_map.2 ⟨_, h, rfl⟩)
      simp [behind, Node.toValue, eq_comm]
    · rw [ih distinct]
      simp [same]

end Tree

namespace Lists

variable {text text' : String} {es es' : List (String × Value)}

/-- **The document is well formed iff no key is there twice**, and its table is what the entries
    say. -/
theorem parse?_eq_some_iff {t : Table} (lists : Lists text es) :
    parse? text = some t ↔
      (es.map Prod.fst).Nodup ∧ t.Ordered ∧ ∀ k v, t.get? k = some v ↔ (k, v) ∈ es := by
  have table : parse? text = (Tree.enter [] es).map Tree.toTable := by
    simp only [parse?, Entries.lines_eq lists (Nat.lt_succ_self _) [], Option.map_map]
    rfl
  rw [table]
  constructor
  · intro parsed
    obtain ⟨t', entered, rfl⟩ := Option.map_eq_some_iff.1 parsed
    obtain ⟨nodup, -, rfl⟩ := Tree.enter_eq_some_iff.1 entered
    exact ⟨nodup, Tree.ordered_toTable _, fun k v => Tree.get?_toTable_values nodup⟩
  · rintro ⟨nodup, ordered, found⟩
    have entered := (Tree.enter_eq_some_iff (t := [])).2 ⟨nodup, fun _ _ => rfl, rfl⟩
    rw [entered, Option.map_some, Option.some_inj]
    refine Dict.eq_of_get? (Tree.ordered_toTable _) ordered fun k => Option.ext fun v => ?_
    rw [found, ← Tree.get?_toTable_values nodup]
    rfl

/-- **The order of the entries does not matter.** -/
theorem parse?_eq_of_perm (lists : Lists text es) (lists' : Lists text' es') (perm : es.Perm es') :
    parse? text = parse? text' := by
  refine Option.ext fun t => ?_
  rw [lists.parse?_eq_some_iff, lists'.parse?_eq_some_iff, (perm.map Prod.fst).nodup_iff]
  simp only [perm.mem_iff]

end Lists

end MarkerStrip.Toml
