/-
  Values of a settings document.

  * `Value` is a parsed value: integers are exact, and a date or time is kept
    as a mere fact, since nothing here reads one;
  * a number may be `unreadable`: well formed in a document that does not need
    it, and a fault where it is asked for;
  * a table is a dictionary, so its keys ascend;
  * `Value.inRange` holds of a value whose numbers all fit.
-/
import MarkerStrip.Data.Dict
import MarkerStrip.Data.Fault
import MarkerStrip.Numeric.Shortest

namespace MarkerStrip.Toml

open Numeric (Binary64)

/-! ## Values -/

/-- A value of a document. -/
inductive Value where
  | string (s : String)
  | integer (n : Int)
  | float (x : Binary64)
  /-- A number that no value can be made of. -/
  | unreadable
  | boolean (b : Bool)
  /-- A date, a time, or both. -/
  | moment
  | array (items : List Value)
  | table (entries : List (String × Value))

/-- The entries of a table. -/
abbrev Table := Data.Dict Value

namespace Value

def string? : Value → Option String
  | string s => some s
  | _ => none

def table? : Value → Option Table
  | table t => some t
  | _ => none

/-- How a fault describes the value.  Integers beyond 64 bits and unreadable numbers are refused
    without a description. -/
def found : Value → Except Data.Fault Data.Found
  | string s => .ok (.text s)
  | integer n =>
    if -9223372036854775808 ≤ n ∧ n < 18446744073709551616 then .ok (.integer n)
    else .error .unexplained
  | float x => .ok (.real (x.text .full))
  | unreadable => .error .unexplained
  | boolean b => .ok (.boolean b)
  | array _ => .ok .sequence
  | moment | table _ => .ok .map

mutual

/-- Whether every integer in the value lies between `low` and `high`, and every number is
    readable. -/
def inRange (low high : Int) : Value → Bool
  | integer n => decide (low ≤ n) && decide (n ≤ high)
  | unreadable => false
  | array items => allInRange low high items
  | table entries => entriesInRange low high entries
  | _ => true

def allInRange (low high : Int) : List Value → Bool
  | [] => true
  | v :: vs => inRange low high v && allInRange low high vs

def entriesInRange (low high : Int) : List (String × Value) → Bool
  | [] => true
  | (_, v) :: es => inRange low high v && entriesInRange low high es

end

end Value

end MarkerStrip.Toml
