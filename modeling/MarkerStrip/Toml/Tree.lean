/-
  Building the tables of a document out of its lines.

  A document's tables arise in several ways, and how a table arose decides
  what may be added to it later:

  * a table that a header names is `opened`, once;
  * a table that a longer header only passes through is `implied`, and a
    header may still open it;
  * a table that a dotted key passes through is `dotted`: only further dotted
    keys add entries to it;
  * a list of tables grows by one with every double-bracketed header, and its
    last table stands for it on the way to others.

  `Tree.assign`, `Tree.openTable` and `Tree.openItem` are the three kinds of
  line, and `Tree.toTable` is the finished table, its keys in ascending order
  (`Tree.ordered_toTable`).
-/
import MarkerStrip.Toml.Value

namespace MarkerStrip.Toml

/-- How a table came to be. -/
inductive Origin where
  | opened
  | implied
  | dotted
deriving Repr, DecidableEq

/-- What a key of a document under construction stands for. -/
inductive Node where
  | value (v : Value)
  | table (origin : Origin) (entries : List (String × Node))
  /-- The tables of a list, the last one first. -/
  | tables (last : List (String × Node)) (earlier : List (List (String × Node)))

/-- The entries of a table under construction. -/
abbrev Tree := List (String × Node)

namespace Tree

/-- Replaces the node under a key, or adds it. -/
def put (t : Tree) (key : String) (n : Node) : Tree :=
  match t with
  | [] => [(key, n)]
  | (k, m) :: rest => if k == key then (k, n) :: rest else (k, m) :: put rest key n

/-- Stores a value under a dotted key, all of whose parts but the last name tables that dotted keys
    made or may enter.  The table that takes the entry has to be one that dotted keys made. -/
def assign (v : Value) (t : Tree) : List String → Option Tree
  | [] => none
  | [key] => if (t.lookup key).isSome then none else some (t.put key (.value v))
  | key :: path =>
    match t.lookup key with
    | none => (assign v [] path).map fun sub => t.put key (.table .dotted sub)
    | some (.table origin sub) =>
      if origin = .opened ∨ (path.length = 1 ∧ origin ≠ .dotted) then none
      else (assign v sub path).map fun sub => t.put key (.table origin sub)
    | some (.tables last earlier) =>
      if path.length = 1 then none
      else (assign v last path).map fun last => t.put key (.tables last earlier)
    | some (.value _) => none

/-- Follows a header's path, making implied tables on the way, and changes the node at its end. -/
def reach (change : Option Node → Option Node) (t : Tree) : List String → Option Tree
  | [] => none
  | [key] => (change (t.lookup key)).map (t.put key)
  | key :: path =>
    match t.lookup key with
    | none => (reach change [] path).map fun sub => t.put key (.table .implied sub)
    | some (.table origin sub) =>
      (reach change sub path).map fun sub => t.put key (.table origin sub)
    | some (.tables last earlier) =>
      (reach change last path).map fun last => t.put key (.tables last earlier)
    | some (.value _) => none

/-- Opens the table that a header names; it must be new or merely implied. -/
def openTable : Tree → List String → Option Tree :=
  reach fun
    | none => some (.table .opened [])
    | some (.table .implied sub) => some (.table .opened sub)
    | some _ => none

/-- Adds a table to the list that a double-bracketed header names. -/
def openItem : Tree → List String → Option Tree :=
  reach fun
    | none => some (.tables [] [])
    | some (.tables last earlier) => some (.tables [] (last :: earlier))
    | some _ => none

/-- Stores a value in the table of the current header. -/
def assignUnder (header path : List String) (v : Value) (t : Tree) : Option Tree :=
  if header.isEmpty then t.assign v path
  else t.reach (fun
    | some (.table origin sub) => (assign v sub path).map (.table origin)
    | some (.tables last earlier) => (assign v last path).map fun last => .tables last earlier
    | _ => none) header

end Tree

mutual

/-- The finished value of a node. -/
def Node.toValue : Node → Value
  | .value v => v
  | .table _ sub => .table (Tree.toTable sub)
  | .tables last earlier => .array (Tree.toItems [.table (Tree.toTable last)] earlier)

/-- The finished tables of a list, put in front of those that came later. -/
def Tree.toItems (later : List Value) : List (List (String × Node)) → List Value
  | [] => later
  | t :: ts => Tree.toItems (.table (Tree.toTable t) :: later) ts

/-- The finished table, its keys in ascending order. -/
def Tree.toTable : List (String × Node) → Table
  | [] => []
  | (k, n) :: rest => Data.Dict.insert (Tree.toTable rest) k n.toValue

end

/-- In a finished table the keys ascend. -/
theorem Tree.ordered_toTable (t : Tree) : Data.Dict.Ordered (Tree.toTable t) := by
  induction t with
  | nil => simp [Tree.toTable, Data.Dict.Ordered]
  | cons e rest ih =>
    obtain ⟨k, n⟩ := e
    rw [Tree.toTable]
    exact ih.insert k n.toValue

end MarkerStrip.Toml
