/-
  Documents: the whole of the settings language.

  * `value` reads a value of any kind; lists and inline tables may be nested
    80 levels deep and may span lines;
  * `line` reads one header or one assignment;
  * `parse?` reads a document, and gives nothing where it is not well formed;
    the keys of what it gives ascend (`ordered_of_parse?`).
-/
import MarkerStrip.Toml.Scalar
import MarkerStrip.Toml.Tree

namespace MarkerStrip.Toml

/-! ## Values -/

/-- What follows the sign between a key and its value. -/
def afterEquals : List Char → Option (List Char)
  | '=' :: r => some r
  | _ => none

/-- The items of a list up to its closing bracket, at most `n` of them. -/
def items (value : Scanner Value) : Nat → Scanner (List Value)
  | 0, _ => none
  | n + 1, s => do
    match ← gap false s with
    | ']' :: r => return ([], r)
    | s =>
      let (v, r) ← value s
      match ← gap false r with
      | ',' :: r =>
        let (vs, r) ← items value n r
        return (v :: vs, r)
      | ']' :: r => return ([v], r)
      | _ => none

/-- The entries of an inline table up to its closing brace, at most `n` of them.  Lines may end
    between any two parts of it, except within a key. -/
def entries (value : Scanner Value) : Nat → Tree → Scanner Tree
  | 0, _, _ => none
  | n + 1, t, s => do
    match ← gap false s with
    | '\x7d' :: r => return (t, r)
    | s =>
      let (path, r) ← keyPath s
      let r ← afterEquals (← gap false r)
      let (v, r) ← value (← gap false r)
      let t ← t.assign v path
      match ← gap false r with
      | ',' :: r => entries value n t r
      | '\x7d' :: r => return (t, r)
      | _ => none

/-- A value in which lists and inline tables are nested at most `depth` deep. -/
def value : (depth : Nat) → Scanner Value
  | depth, '[' :: r =>
    match depth with
    | 0 => none
    | depth + 1 => (items (value depth) (r.length + 1) r).map fun (vs, r) => (.array vs, r)
  | depth, '\x7b' :: r =>
    match depth with
    | 0 => none
    | depth + 1 =>
      (entries (value depth) (r.length + 1) [] r).map fun (t, r) => (.table (Tree.toTable t), r)
  | _, '"' :: r => (string ('"' :: r)).map fun (s, r) => (.string s, r)
  | _, '\'' :: r => (string ('\'' :: r)).map fun (s, r) => (.string s, r)
  | _, s => scalar s

/-- How deep lists and inline tables may be nested. -/
def maxDepth : Nat := 80

/-! ## Lines -/

/-- A line of a document that says something. -/
inductive Line where
  | header (path : List String)
  | itemHeader (path : List String)
  | assignment (path : List String) (v : Value)

/-- Reads a header or an assignment, and the end of its line. -/
def line : Scanner Line
  | '[' :: '[' :: r => do
    match ← keyPath (skipBlanks r) with
    | (path, ']' :: ']' :: r) => return (.itemHeader path, ← lineEnd r)
    | _ => none
  | '[' :: r => do
    match ← keyPath (skipBlanks r) with
    | (path, ']' :: r) => return (.header path, ← lineEnd r)
    | _ => none
  | s => do
    let (path, r) ← keyPath s
    let r ← afterEquals r
    let (v, r) ← value maxDepth (skipBlanks r)
    return (.assignment path v, ← lineEnd r)

/-- A document under construction: its tree and the header that assignments belong to. -/
structure Draft where
  tree : Tree := []
  header : List String := []

def Draft.add (d : Draft) : Line → Option Draft
  | .header path => (d.tree.openTable path).map fun t => ⟨t, path⟩
  | .itemHeader path => (d.tree.openItem path).map fun t => ⟨t, path⟩
  | .assignment path v => (d.tree.assignUnder d.header path v).map fun t => { d with tree := t }

/-- Reads the rest of a document, at most `n` lines of it. -/
def lines : Nat → Draft → List Char → Option Draft
  | 0, _, _ => none
  | n + 1, d, s => do
    match ← gap false s with
    | [] => return d
    | s =>
      let (l, r) ← line s
      lines n (← d.add l) r

/-! ## Documents -/

/-- A byte order mark at the start of a text is no part of it. -/
def skipMark : List Char → List Char
  | '\ufeff' :: r => r
  | r => r

/-- The table that a document describes. -/
def parse? (text : String) : Option Table :=
  let s := skipMark text.toList
  (lines (s.length + 1) {} s).map fun d => Tree.toTable d.tree

/-- The keys of a document ascend, in whatever order it has them. -/
theorem ordered_of_parse? {text : String} {t : Table} (h : parse? text = some t) :
    Data.Dict.Ordered t := by
  obtain ⟨d, -, rfl⟩ := Option.map_eq_some_iff.1 h
  exact d.tree.ordered_toTable

end MarkerStrip.Toml
