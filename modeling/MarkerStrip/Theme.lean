/-
  Themes: tables of colours that settings may take over.

  A colour is looked up under its whole key, and if there is no such entry by
  walking from table to table along the parts of the key between dots.  A text
  that is no colour is noted and passed over, and anything else that is no
  colour is passed over in silence.

  * `Theme.ofDocument?` reads a theme, whose numbers have to be readable and
    its integers to fit in 64 bits with a sign; a table in it whose first key
    is `Theme.momentKey` is a date or time, and its other entries are lost;
  * `Theme.find?` and `Theme.color` look a colour up;
  * `Settings.withTheme` takes the three colours of a theme over.
-/
import MarkerStrip.Note
import MarkerStrip.Settings
import MarkerStrip.Text.Segments
import MarkerStrip.Toml.Document

namespace MarkerStrip

/-- A table whose entries, or tables in it, hold colours. -/
abbrev Theme := Toml.Table

namespace Theme

/-! ## Reading -/

/-- The key by which a table says that it stands for a date or a time. -/
def momentKey : String := "$__toml_private_datetime"

/-- The moment that a text writes. -/
def moment? : Toml.Value → Option Toml.Value
  | .string s => if Toml.isMoment s.toList then some .moment else none
  | _ => none

mutual

/-- A value as a theme holds it. -/
def value? : Toml.Value → Option Toml.Value
  | .integer n =>
    if -9223372036854775808 ≤ n ∧ n ≤ 9223372036854775807 then some (.integer n) else none
  | .unreadable => none
  | .array items => (items? items).map .array
  | .table [] => some (.table [])
  | .table ((k, v) :: es) =>
    if k == momentKey then moment? v else (entries? ((k, v) :: es)).map .table
  | v => some v

def items? : List Toml.Value → Option (List Toml.Value)
  | [] => some []
  | v :: vs => do return (← value? v) :: (← items? vs)

/-- The entries of a table, each value as a theme holds it. -/
def entries? : List (String × Toml.Value) → Option Toml.Table
  | [] => some []
  | (k, v) :: es => do return (k, ← value? v) :: (← entries? es)

end

/-- The theme that a document describes. -/
def ofDocument? (text : String) : Option Theme :=
  (Toml.parse? text).bind entries?

/-! ## Looking up -/

/-- The parts of a key between its dots. -/
def parts (key : String) : List String :=
  (Text.segments '.' key.toList).map String.ofList

/-- Follows keys from table to table. -/
def walk (t : Toml.Table) : List String → Option Toml.Value
  | [] => none
  | [k] => t.get? k
  | k :: ks => ((t.get? k).bind Toml.Value.table?).bind fun t => walk t ks

/-- The entry of a key: under the whole key, or along its parts. -/
def find? (t : Theme) (key : String) : Option Toml.Value :=
  (t.get? key).or (walk t (parts key))

/-- The colour of a key, or the default where there is none. -/
def color (t : Theme) (key : String) (default : Color) : Color × List Note :=
  match (t.find? key).bind Toml.Value.string? with
  | none => (default, [])
  | some raw =>
    match Color.parse raw with
    | .ok c => (c, [])
    | .error _ => (default, [.colorIgnored key raw])

end Theme

/-- Takes a theme's colours for errors, warnings and the background over. -/
def Settings.withTheme (s : Settings) (t : Theme) : Settings × List Note :=
  let (errorColor, n₁) := t.color "errorbar.errorcolor" s.errorColor
  let (warningColor, n₂) := t.color "errorbar.warningcolor" s.warningColor
  let (backgroundColor, n₃) := t.color "errorbar.backgroundcolor" s.backgroundColor
  ({ s with errorColor, warningColor, backgroundColor }, n₁ ++ n₂ ++ n₃)

end MarkerStrip
