/-
  Digits and the numbers they write.

  * `digitValue?` reads one digit in a base up to sixteen, of either case;
  * `ofDigits` is the number that a list of digit values writes;
  * `hexText` writes a number in lower-case hexadecimal, filled with zeros
    from the left.
-/

namespace MarkerStrip.Numeric

/-- The value of an ASCII digit of either case, whatever the base. -/
def digit? (c : Char) : Option Nat :=
  if '0' ≤ c ∧ c ≤ '9' then some (c.toNat - '0'.toNat)
  else if 'a' ≤ c ∧ c ≤ 'f' then some (c.toNat - 'a'.toNat + 10)
  else if 'A' ≤ c ∧ c ≤ 'F' then some (c.toNat - 'A'.toNat + 10)
  else none

/-- The value of a digit of base `base`, and nothing for any other character. -/
def digitValue? (base : Nat) (c : Char) : Option Nat :=
  (digit? c).filter (· < base)

/-- The number that digit values write in base `base`, the leading digit first. -/
def ofDigits (base : Nat) (ds : List Nat) : Nat :=
  ds.foldl (fun n d => base * n + d) 0

/-- The number that `cs` writes, if there is a character and all are digits of base `base`. -/
def readDigits? (base : Nat) (cs : List Char) : Option Nat :=
  if cs.isEmpty then none else (cs.mapM (digitValue? base)).map (ofDigits base)

/-- Lower-case hexadecimal, at least `width` digits long. -/
def hexText (width n : Nat) : List Char :=
  let ds := Nat.toDigits 16 n
  List.replicate (width - ds.length) '0' ++ ds

end MarkerStrip.Numeric
