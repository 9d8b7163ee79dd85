/-
  Diagnostics in data files.

  A diagnostic is an object with the fields `tab_index`, `line_number`,
  `message` and `severity`, and perhaps others, which are ignored.  In JSON it
  may also be a list of exactly these four.  Fields are decoded in the order
  of their keys, and the first bad one is the fault; only then is a missing
  field reported, in the order above.

  * `Diagnostic.Draft` holds the fields met so far, and
    `Diagnostic.Draft.complete` makes a diagnostic of them;
  * `Diagnostic.ofJson` and `Diagnostic.ofToml` decode one diagnostic, and
    `Diagnostic.ofDocument` one that a document describes.
-/
import MarkerStrip.Data.Decode
import MarkerStrip.Data.Json
import MarkerStrip.Diagnostic
import MarkerStrip.Toml.Document

namespace MarkerStrip

open Data (Fault Json)

/-! ## Severities -/

/-- The severity that a keyword names. -/
def Severity.ofKeyword (s : String) : Except Fault Severity :=
  match Severity.ofKeyword? s with
  | some v => .ok v
  | none => .error (.unknownVariant s ["warning", "error"])

/-- A severity in JSON: its keyword, or an object with the keyword as its only key, over a null. -/
def Severity.ofJson : Json → Except Fault Severity
  | .string s => Severity.ofKeyword s
  | .object [(k, v)] => do
    let s ← Severity.ofKeyword k
    match v with
    | .null => return s
    | v => throw (.wrongType v.found "unit")
  | .object _ => .error (.wrongValue .map "map with a single key")
  | j => .error (.wrongType j.found "string or map")

/-- A severity in a settings document: its keyword, or a table with the keyword as its only key,
    over an empty table or list. -/
def Severity.ofToml : Toml.Value → Except Fault Severity
  | .string s => Severity.ofKeyword s
  | .table [(k, v)] => do
    let s ← Severity.ofKeyword k
    match v with
    | .table [] | .array [] => return s
    | _ => throw .unexplained
  | _ => .error .unexplained

namespace Diagnostic

/-! ## Fields -/

/-- The fields of a diagnostic. -/
inductive Field where
  | tab
  | line
  | message
  | severity
deriving Repr, DecidableEq

namespace Field

def all : List Field := [tab, line, message, severity]

/-- The key of the field in data files. -/
def key : Field → String
  | tab => "tab_index"
  | line => "line_number"
  | message => "message"
  | severity => "severity"

/-- The field that a key names. -/
def ofKey? (s : String) : Option Field := all.find? fun f => f.key == s

end Field

/-- The fields met so far. -/
structure Draft where
  tab : Option UInt64 := none
  line : Option UInt64 := none
  message : Option String := none
  severity : Option Severity := none
deriving Repr, DecidableEq

/-- The value of a field, or the fault that it is missing. -/
def Field.require {α : Type} (f : Field) : Option α → Except Fault α
  | some a => .ok a
  | none => .error (.missingField f.key)

/-- The diagnostic, if no field is missing. -/
def Draft.complete (d : Draft) : Except Fault Diagnostic := do
  let tab ← Field.tab.require d.tab
  let line ← Field.line.require d.line
  let message ← Field.message.require d.message
  let severity ← Field.severity.require d.severity
  return { tab, line, severity, message }

/-! ## JSON -/

/-- A tab or a line. -/
def indexOfJson (j : Json) : Except Fault UInt64 := j.found.word64 "usize"

/-- Decodes one entry of an object; a key that names no field is passed over. -/
def Draft.addJson (d : Draft) (key : String) (v : Json) : Except Fault Draft :=
  match Field.ofKey? key with
  | some .tab => do return { d with tab := some (← indexOfJson v) }
  | some .line => do return { d with line := some (← indexOfJson v) }
  | some .message => do return { d with message := some (← v.found.string) }
  | some .severity => do return { d with severity := some (← Severity.ofJson v) }
  | none => .ok d

/-- The item of a list at a place, decoded. -/
def itemOfJson {α : Type} (items : List Json) (place : Nat) (decode : Json → Except Fault α) :
    Except Fault α :=
  match items[place]? with
  | some v => decode v
  | none => .error (.wrongLength place "struct Diagnostic with 4 elements")

/-- A diagnostic from its four fields in a list. -/
def ofItems (items : List Json) : Except Fault Diagnostic := do
  let tab ← itemOfJson items 0 indexOfJson
  let line ← itemOfJson items 1 indexOfJson
  let message ← itemOfJson items 2 fun v => v.found.string
  let severity ← itemOfJson items 3 Severity.ofJson
  if 4 < items.length then throw (.wrongLength items.length "fewer elements in array")
  return { tab, line, severity, message }

/-- A diagnostic from its fields by key. -/
def ofFields (fields : Data.Dict Json) : Except Fault Diagnostic := do
  let d ← fields.foldlM (fun (d : Draft) (key, v) => d.addJson key v) {}
  d.complete

def ofJson : Json → Except Fault Diagnostic
  | .object fields => ofFields fields
  | .array items => ofItems items
  | j => .error (.wrongType j.found "struct Diagnostic")

/-! ## Settings documents -/

/-- A tab or a line. -/
def indexOfToml (v : Toml.Value) : Except Fault UInt64 := do
  let f ← v.found
  f.word64 "usize"

/-- A message. -/
def textOfToml (v : Toml.Value) : Except Fault String := do
  let f ← v.found
  f.string

/-- Whether every integer in a value fits in 128 bits, signed or not, and all numbers are
    readable. -/
def isWellRanged (v : Toml.Value) : Bool :=
  v.inRange (-170141183460469231731687303715884105728) 340282366920938463463374607431768211455

/-- Decodes one entry of a table; a key that names no field is passed over, but its value still has
    to be well ranged. -/
def Draft.addToml (d : Draft) (key : String) (v : Toml.Value) : Except Fault Draft :=
  match Field.ofKey? key with
  | some .tab => do return { d with tab := some (← indexOfToml v) }
  | some .line => do return { d with line := some (← indexOfToml v) }
  | some .message => do return { d with message := some (← textOfToml v) }
  | some .severity => do return { d with severity := some (← Severity.ofToml v) }
  | none => if isWellRanged v then .ok d else .error .unexplained

/-- A diagnostic from the table of a document. -/
def ofToml (t : Toml.Table) : Except Fault Diagnostic := do
  let d ← t.foldlM (fun (d : Draft) (key, v) => d.addToml key v) {}
  d.complete

/-- A diagnostic from a document; one that is not well formed has an unexplained fault. -/
def ofDocument (text : String) : Except Fault Diagnostic :=
  match Toml.parse? text with
  | some t => ofToml t
  | none => .error .unexplained

end Diagnostic

end MarkerStrip
