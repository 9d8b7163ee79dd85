/-
  Settings in documents.

  A document may set any of the eleven fields and nothing else.  Entries are
  decoded in the order of their keys, and the first bad one is the fault.

  * `Settings.Field` lists the fields with their keys;
  * `Settings.assign` decodes the value of one field;
  * `Settings.ofTable` decodes a table over the default settings, and
    `Settings.ofDocument` a whole document.
-/
import MarkerStrip.Data.Decode
import MarkerStrip.Settings
import MarkerStrip.Toml.Document

namespace MarkerStrip.Settings

open Data (Fault)

/-! ## Fields -/

/-- The fields that a document may set. -/
inductive Field where
  | errorColor
  | warningColor
  | backgroundColor
  | preferredWidth
  | markerHeight
  | hitTolerance
  | bottomMargin
  | insetLeft
  | insetRight
  | lineOffset
  | debounce
deriving Repr, DecidableEq

namespace Field

/-- The key of the field in documents. -/
def key : Field → String
  | errorColor => "error-color"
  | warningColor => "warning-color"
  | backgroundColor => "background-color"
  | preferredWidth => "preferred-width"
  | markerHeight => "marker-height"
  | hitTolerance => "hit-tolerance"
  | bottomMargin => "vertical-offset"
  | insetLeft => "marker-inset-left"
  | insetRight => "marker-inset-right"
  | lineOffset => "line-offset"
  | debounce => "debounce-ms"

def all : List Field :=
  [errorColor, warningColor, backgroundColor, preferredWidth, markerHeight, hitTolerance,
    bottomMargin, insetLeft, insetRight, lineOffset, debounce]

/-- The field that a key names. -/
def ofKey? (s : String) : Option Field := all.find? fun f => f.key == s

end Field

/-! ## Values -/

/-- A colour, written `#rrggbb`. -/
def color (v : Toml.Value) : Except Fault Color := do
  let f ← v.found
  Color.parse (← f.string)

def word32 (v : Toml.Value) : Except Fault UInt32 := do
  let f ← v.found
  f.word32

def word64 (expected : String) (v : Toml.Value) : Except Fault UInt64 := do
  let f ← v.found
  f.word64 expected

/-! ## Tables -/

/-- Sets one field to a decoded value. -/
def assign (s : Settings) (f : Field) (v : Toml.Value) : Except Fault Settings :=
  match f with
  | .errorColor => do return { s with errorColor := ← color v }
  | .warningColor => do return { s with warningColor := ← color v }
  | .backgroundColor => do return { s with backgroundColor := ← color v }
  | .preferredWidth => do return { s with preferredWidth := ← word32 v }
  | .markerHeight => do return { s with markerHeight := ← word32 v }
  | .hitTolerance => do return { s with hitTolerance := ← word32 v }
  | .bottomMargin => do return { s with bottomMargin := ← word32 v }
  | .insetLeft => do return { s with insetLeft := ← word32 v }
  | .insetRight => do return { s with insetRight := ← word32 v }
  | .lineOffset => do return { s with lineOffset := ← word64 "usize" v }
  | .debounce => do return { s with debounce := ← word64 "u64" v }

/-- Decodes one entry; every key has to name a field. -/
def addEntry (s : Settings) (key : String) (v : Toml.Value) : Except Fault Settings :=
  match Field.ofKey? key with
  | some f => s.assign f v
  | none => .error (.unknownField key (Field.all.map Field.key))

/-- The settings of a table; fields it does not name have their defaults. -/
def ofTable (t : Toml.Table) : Except Fault Settings :=
  t.foldlM (fun s (key, v) => s.addEntry key v) {}

/-- The settings of a document; one that is not well formed has an unexplained fault. -/
def ofDocument (text : String) : Except Fault Settings :=
  match Toml.parse? text with
  | some t => ofTable t
  | none => .error .unexplained

end MarkerStrip.Settings
