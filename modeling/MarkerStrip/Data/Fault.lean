/-
  What can be wrong with decoded data, and how it is said.

  * `Found` describes the value that was met;
  * `Fault` is the cause of a failure; a fault without further explanation
    has no message;
  * `Fault.message?` words it.
-/
import MarkerStrip.Text.Quoted

namespace MarkerStrip.Data

/-- A value as a message describes it. -/
inductive Found where
  | integer (n : Int)
  /-- A floating-point number, by its text. -/
  | real (text : String)
  | boolean (b : Bool)
  | text (s : String)
  | null
  | sequence
  | map
deriving Repr, DecidableEq

/-- The kind of the value, with the value where it is a scalar. -/
def Found.describe : Found → String
  | integer n => "integer `" ++ toString n ++ "`"
  | real t => "floating point `" ++ t ++ "`"
  | boolean b => "boolean `" ++ (if b then "true" else "false") ++ "`"
  | text s => "string " ++ Text.quoted s
  | null => "null"
  | sequence => "sequence"
  | map => "map"

/-- Names between backquotes, joined by commas, the last of two by "or". -/
def alternatives : List String → String
  | [a, b] => "`" ++ a ++ "` or `" ++ b ++ "`"
  | names => "one of " ++ ", ".intercalate (names.map fun n => "`" ++ n ++ "`")

/-- Why data could not be decoded. -/
inductive Fault where
  /-- A value of another type than expected. -/
  | wrongType (found : Found) (expected : String)
  /-- A value of the right type that the target cannot hold. -/
  | wrongValue (found : Found) (expected : String)
  /-- A list of another length than expected. -/
  | wrongLength (length : Nat) (expected : String)
  | unknownField (name : String) (known : List String)
  | unknownVariant (name : String) (known : List String)
  | missingField (name : String)
  | invalidColor (raw : String)
  /-- Data that is refused without an explanation. -/
  | unexplained
deriving Repr, DecidableEq

/-- The wording of a colour that is none. -/
def invalidColorText (raw : String) : String :=
  "invalid color `" ++ raw ++ "`, expected `#rrggbb`"

/-- The wording of a fault, if it has one. -/
def Fault.message? : Fault → Option String
  | wrongType f e => some ("invalid type: " ++ f.describe ++ ", expected " ++ e)
  | wrongValue f e => some ("invalid value: " ++ f.describe ++ ", expected " ++ e)
  | wrongLength n e => some ("invalid length " ++ toString n ++ ", expected " ++ e)
  | unknownField n known => some ("unknown field `" ++ n ++ "`, expected " ++ alternatives known)
  | unknownVariant n known =>
    some ("unknown variant `" ++ n ++ "`, expected " ++ alternatives known)
  | missingField n => some ("missing field `" ++ n ++ "`")
  | invalidColor raw => some (invalidColorText raw)
  | unexplained => none

end MarkerStrip.Data
