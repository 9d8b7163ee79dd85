/-
  Decoding scalars, whatever format they come from.

  A decoder looks at a value as a fault would describe it, so its failures
  show just what it met.  It names what it expects in its messages.
-/
import MarkerStrip.Data.Fault

namespace MarkerStrip.Data

/-- A whole number below `bound`. -/
def Found.natural (bound : Nat) (expected : String) : Found → Except Fault Nat
  | .integer n =>
    if 0 ≤ n ∧ n < bound then .ok n.toNat else .error (.wrongValue (.integer n) expected)
  | f => .error (.wrongType f expected)

/-- An unsigned 32-bit number. -/
def Found.word32 (f : Found) : Except Fault UInt32 :=
  (f.natural UInt32.size "u32").map UInt32.ofNat

/-- An unsigned 64-bit number, under the name by which messages call it. -/
def Found.word64 (expected : String) (f : Found) : Except Fault UInt64 :=
  (f.natural UInt64.size expected).map UInt64.ofNat

/-- A text. -/
def Found.string : Found → Except Fault String
  | .text s => .ok s
  | f => .error (.wrongType f "a string")

end MarkerStrip.Data
