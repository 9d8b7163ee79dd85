/-
  Scalars without quotes: booleans, integers, floats, dates and times.

  * `integer?` reads signed decimal integers without leading zeros, and
    unsigned ones in base 16, 8 and 2; underscores stand between digits only;
  * `isLoose` holds of texts that are taken for decimal integers though some
    characters behind the first underscore are none of their digits; they are
    unreadable, and so is a base without digits;
  * `float?` reads decimals with a fraction, an exponent or both;
  * `isMoment` holds of dates, times and both, whose fields it checks against
    the calendar and the clock; seconds may be left out;
  * `scalar?` tries them all.
-/
import MarkerStrip.Text.Segments
import MarkerStrip.Toml.Lexical
import MarkerStrip.Toml.Value

namespace MarkerStrip.Toml

open Numeric (Binary64)

/-! ## Numbers -/

/-- The digits of a number in which single underscores may stand between digits. -/
def grouped? (base : Nat) (cs : List Char) : Option (List Nat) :=
  let groups := Text.segments '_' cs
  if groups.any List.isEmpty then none else groups.flatten.mapM (Numeric.digitValue? base)

/-- A sign, which may be left out, as "is negative", and what follows it. -/
def sign : List Char → Bool × List Char
  | '+' :: r => (false, r)
  | '-' :: r => (true, r)
  | r => (false, r)

/-- Decimal digits of which the first is zero only if it is the last. -/
def whole? (cs : List Char) : Option (List Nat) :=
  match grouped? 10 cs with
  | some (0 :: _ :: _) => none
  | ds => ds

/-- Whether decimal digits, the first of them no zero, are followed by groups that underscores
    separate, each beginning with a hexadecimal digit, and each but the last ending with one.  A
    point or an exponent makes a decimal of it, and no space may stand in it. -/
def isLoose (cs : List Char) : Bool :=
  let isHex (c : Char) : Bool := (Numeric.digitValue? 16 c).isSome
  match Text.segments '_' cs with
  | first :: rest =>
    first.all Char.isDigit && first.head?.any (· != '0') && !rest.isEmpty &&
      rest.all (fun w => w.head?.any isHex) && rest.dropLast.all (fun w => w.getLast?.any isHex) &&
      !cs.any fun c => c == '.' || c == 'e' || c == 'E' || c == ' '
  | [] => false

/-- The digits of an integer after the letter of its base. -/
def based? (base : Nat) (cs : List Char) : Option Value :=
  if cs.isEmpty then some .unreadable
  else (grouped? base cs).map fun ds => .integer (Numeric.ofDigits base ds)

/-- An integer. -/
def integer? : List Char → Option Value
  | '0' :: 'x' :: r => based? 16 r
  | '0' :: 'o' :: r => based? 8 r
  | '0' :: 'b' :: r => based? 2 r
  | s =>
    let (negative, r) := sign s
    match whole? r with
    | some ds =>
      let n : Int := Numeric.ofDigits 10 ds
      some (.integer (if negative then -n else n))
    | none => if isLoose r then some .unreadable else none

/-- The exponent after the letter `e`, nothing standing for zero. -/
def exponent? : List Char → Option Int
  | [] => some 0
  | e :: r =>
    if e == 'e' || e == 'E' then
      let (negative, r) := sign r
      (grouped? 10 r).map fun ds =>
        let n : Int := Numeric.ofDigits 10 ds
        if negative then -n else n
    else none

/-- A decimal with a fraction, an exponent or both; one too great for double precision is
    unreadable. -/
def decimal? (s : List Char) : Option Value :=
  let (negative, r) := sign s
  let isMark (c : Char) : Bool := c == 'e' || c == 'E'
  let (mantissa, power) := r.span fun c => !isMark c
  let (int, fraction) := mantissa.span fun c => c != '.'
  (whole? int).bind fun ds =>
    let fs := match fraction with
      | '.' :: r => grouped? 10 r
      | _ => if power.isEmpty then none else some []
    fs.bind fun fs =>
      (exponent? power).map fun e =>
        match Binary64.ofDecimal negative (Numeric.ofDigits 10 (ds ++ fs)) (e - fs.length) with
        | .infinite _ => .unreadable
        | x => .float x

/-- A float: a decimal, an infinity or no number. -/
def float? (s : List Char) : Option Value :=
  match sign s with
  | (negative, ['i', 'n', 'f']) => some (.float (.infinite negative))
  | (_, ['n', 'a', 'n']) => some (.float .nan)
  | _ => decimal? s

/-! ## Dates and times -/

def isLeapYear (y : Nat) : Bool := y % 4 == 0 && (y % 100 != 0 || y % 400 == 0)

/-- The number of days of a month, zero if there is no such month. -/
def daysOf (year month : Nat) : Nat :=
  match month with
  | 1 | 3 | 5 | 7 | 8 | 10 | 12 => 31
  | 4 | 6 | 9 | 11 => 30
  | 2 => if isLeapYear year then 29 else 28
  | _ => 0

/-- Whether decimal digits write a number from `low` to `high`. -/
def between (low high : Nat) (ds : List Char) : Bool :=
  (Numeric.readDigits? 10 ds).any fun n => decide (low ≤ n) && decide (n ≤ high)

/-- A day of the calendar, `YYYY-MM-DD`. -/
def isDate : List Char → Bool
  | [y₁, y₂, y₃, y₄, '-', m₁, m₂, '-', d₁, d₂] =>
    match Numeric.readDigits? 10 [y₁, y₂, y₃, y₄], Numeric.readDigits? 10 [m₁, m₂] with
    | some y, some m => between 1 (daysOf y m) [d₁, d₂]
    | _, _ => false
  | _ => false

/-- Reads seconds with a fraction, if there are any, off the front. -/
def seconds : List Char → Option (List Char)
  | ':' :: s₁ :: s₂ :: '.' :: r =>
    if between 0 60 [s₁, s₂] && r.head?.any Char.isDigit then some (r.dropWhile Char.isDigit)
    else none
  | ':' :: s₁ :: s₂ :: r => if between 0 60 [s₁, s₂] then some r else none
  | ':' :: _ => none
  | r => some r

/-- Reads a time of the day, `HH:MM` and perhaps seconds, off the front. -/
def timeOfDay : List Char → Option (List Char)
  | h₁ :: h₂ :: ':' :: m₁ :: m₂ :: r =>
    if between 0 23 [h₁, h₂] && between 0 59 [m₁, m₂] then seconds r else none
  | _ => none

/-- What may follow the time of a dated moment: nothing, or its distance from universal time. -/
def isOffset : List Char → Bool
  | [] | ['Z'] | ['z'] => true
  | [s, h₁, h₂, ':', m₁, m₂] =>
    (s == '+' || s == '-') && between 0 23 [h₁, h₂] && between 0 59 [m₁, m₂]
  | _ => false

/-- A date, a time, or a date and a time with a letter or a blank between. -/
def isMoment (s : List Char) : Bool :=
  if isDate (s.take 10) then
    match s.drop 10 with
    | [] => true
    | c :: r => (c == 'T' || c == 't' || c == ' ') && (timeOfDay r).any isOffset
  else timeOfDay s == some []

/-! ## Scalars -/

/-- The value of a scalar without quotes. -/
def scalar? (s : List Char) : Option Value :=
  if s == ['t', 'r', 'u', 'e'] then some (.boolean true)
  else if s == ['f', 'a', 'l', 's', 'e'] then some (.boolean false)
  else if isMoment s then some .moment
  else (integer? s).or (float? s)

/-- The characters that no scalar without quotes has, blanks apart.  All others belong to it, even
    where no rule admits them. -/
def delimiters : List Char :=
  ['\n', '\r', '=', ',', '[', ']', '\x7b', '\x7d', '#']

/-- A character that belongs to a scalar without quotes wherever it stands. -/
def isScalarChar (c : Char) : Bool := !isBlank c && !delimiters.contains c

/-- Whether a scalar without quotes goes on behind the blanks at the front of `s`; a quote there
    begins a string. -/
def goesOn (s : List Char) : Bool :=
  (skipBlanks s).head?.any fun c => isScalarChar c && c != '"' && c != '\''

/-- The characters of a scalar without quotes, with the blanks that it goes on behind, and what
    remains. -/
def scalarText : List Char → List Char × List Char
  | [] => ([], [])
  | c :: r =>
    if isScalarChar c || (isBlank c && goesOn r) then
      let (w, rest) := scalarText r
      (c :: w, rest)
    else ([], c :: r)

/-- Reads a scalar without quotes. -/
def scalar : Scanner Value := fun s =>
  let (w, r) := scalarText s
  (scalar? w).map fun v => (v, r)

end MarkerStrip.Toml
