/-
  The lexical layer of the document language: blanks, comments, line ends,
  keys and strings.

  A scanner takes what remains of the text and gives back what it read and
  what remains after it, or nothing where the text is not well formed.  A
  carriage return counts only in front of a line feed, and control characters
  other than the tab are refused everywhere.

  * `gap` skips blanks, line ends and comments; `lineEnd` skips the rest of a
    line that may hold a comment only;
  * `keyPath` reads a dotted key, `string` a string of one of four kinds.
-/
import MarkerStrip.Numeric.Digits

namespace MarkerStrip.Toml

/-- Reads something off the front of a text. -/
abbrev Scanner (α : Type) := List Char → Option (α × List Char)

/-! ## Blanks and comments -/

def isBlank (c : Char) : Bool := c == ' ' || c == '\t'

/-- A character that may stand in comments and literal strings. -/
def isText (c : Char) : Bool := c == '\t' || (decide (' ' ≤ c) && c != '\x7f')

def skipBlanks (s : List Char) : List Char := s.dropWhile isBlank

/-- Skips blanks, line ends and comments; `inComment` says whether a comment has begun. -/
def gap (inComment : Bool) : List Char → Option (List Char)
  | [] => some []
  | '\n' :: r => gap false r
  | '\r' :: '\n' :: r => gap false r
  | c :: r =>
    if inComment then if isText c then gap true r else none
    else if isBlank c then gap false r
    else if c == '#' then gap true r
    else some (c :: r)

/-- Skips the rest of a line that holds no more than blanks and a comment. -/
def lineEnd (s : List Char) : Option (List Char) :=
  let rest := match skipBlanks s with
    | '#' :: r => r.dropWhile isText
    | r => r
  match rest with
  | [] => some []
  | '\n' :: r => some r
  | '\r' :: '\n' :: r => some r
  | _ => none

/-! ## Escapes -/

/-- The character of a code point written in hexadecimal. -/
def codePoint? (ds : List Char) : Option Char :=
  (Numeric.readDigits? 16 ds).bind fun n =>
    if h : n.isValidChar then some (Char.ofNatAux n h) else none

/-- The characters that a backslash followed by one letter stands for. -/
def shortEscape? : Char → Option Char
  | 'b' => some '\x08'
  | 't' => some '\t'
  | 'n' => some '\n'
  | 'f' => some '\x0c'
  | 'r' => some '\r'
  | 'e' => some '\x1b'
  | '"' => some '"'
  | '\\' => some '\\'
  | _ => none

/-- Puts a character in front of what a scanner read. -/
def prepend (c : Char) (read : Option (List Char × List Char)) : Option (List Char × List Char) :=
  read.map fun (cs, r) => (c :: cs, r)

/-! ## Strings -/

/-- The rest of a basic string on one line, up to its closing quote. -/
def basicBody : Scanner (List Char)
  | [] => none
  | '"' :: r => some ([], r)
  | '\\' :: 'x' :: a :: b :: r => (codePoint? [a, b]).bind fun c => prepend c (basicBody r)
  | '\\' :: 'u' :: a :: b :: c :: d :: r =>
    (codePoint? [a, b, c, d]).bind fun c => prepend c (basicBody r)
  | '\\' :: 'U' :: a :: b :: c :: d :: e :: f :: g :: h :: r =>
    (codePoint? [a, b, c, d, e, f, g, h]).bind fun c => prepend c (basicBody r)
  | '\\' :: c :: r => (shortEscape? c).bind fun c => prepend c (basicBody r)
  | c :: r => if isText c then prepend c (basicBody r) else none

/-- The rest of a literal string on one line, up to its closing quote. -/
def literalBody : Scanner (List Char)
  | [] => none
  | '\'' :: r => some ([], r)
  | c :: r => if isText c then prepend c (literalBody r) else none

/-- The quotes of the body that touch the closing three, at most two. -/
def closing (q : Char) (r : List Char) : List Char × List Char :=
  let extra := ((r.take 2).takeWhile (· == q)).length
  (List.replicate extra q, r.drop extra)

/-- Where the reading of a basic string over several lines stands. -/
inductive Fold where
  /-- In the text. -/
  | inText
  /-- After a backslash that has to be the last of its line. -/
  | lineEnding
  /-- After the end of such a line, where blanks and line ends are dropped. -/
  | dropping
deriving Repr, DecidableEq

/-- The rest of a basic string over several lines, up to its closing quotes. -/
def multilineBody (fold : Fold) : Scanner (List Char)
  | [] => none
  | '\n' :: r =>
    if fold = .inText then prepend '\n' (multilineBody .inText r) else multilineBody .dropping r
  | '\r' :: '\n' :: r =>
    if fold = .inText then prepend '\r' (prepend '\n' (multilineBody .inText r))
    else multilineBody .dropping r
  | c :: r =>
    if fold ≠ .inText ∧ isBlank c then multilineBody fold r
    else if fold = .lineEnding then none
    else match c, r with
      | '"', '"' :: '"' :: r => some (closing '"' r)
      | '\\', 'x' :: a :: b :: r =>
        (codePoint? [a, b]).bind fun c => prepend c (multilineBody .inText r)
      | '\\', 'u' :: a :: b :: c :: d :: r =>
        (codePoint? [a, b, c, d]).bind fun c => prepend c (multilineBody .inText r)
      | '\\', 'U' :: a :: b :: c :: d :: e :: f :: g :: h :: r =>
        (codePoint? [a, b, c, d, e, f, g, h]).bind fun c => prepend c (multilineBody .inText r)
      | '\\', c :: r =>
        match shortEscape? c with
        | some c => prepend c (multilineBody .inText r)
        | none =>
          if isBlank c || c == '\n' || c == '\r' then multilineBody .lineEnding (c :: r) else none
      | c, r => if isText c then prepend c (multilineBody .inText r) else none

/-- The rest of a literal string over several lines, up to its closing quotes. -/
def multilineLiteralBody : Scanner (List Char)
  | [] => none
  | '\'' :: '\'' :: '\'' :: r => some (closing '\'' r)
  | '\r' :: '\n' :: r => prepend '\r' (prepend '\n' (multilineLiteralBody r))
  | c :: r => if isText c || c == '\n' then prepend c (multilineLiteralBody r) else none

/-- A line end straight after the opening quotes is no part of the string. -/
def skipLineEnd : List Char → List Char
  | '\n' :: r => r
  | '\r' :: '\n' :: r => r
  | r => r

def toText (read : Option (List Char × List Char)) : Option (String × List Char) :=
  read.map fun (cs, r) => (String.ofList cs, r)

/-- A string of any of the four kinds. -/
def string : Scanner String
  | '"' :: '"' :: '"' :: r => toText (multilineBody .inText (skipLineEnd r))
  | '"' :: r => toText (basicBody r)
  | '\'' :: '\'' :: '\'' :: r => toText (multilineLiteralBody (skipLineEnd r))
  | '\'' :: r => toText (literalBody r)
  | _ => none

/-! ## Keys -/

/-- A character of a key without quotes. -/
def isBare (c : Char) : Bool := c.isAlphanum || c == '-' || c == '_'

/-- One part of a key: bare, or a string on one line. -/
def keyPart : Scanner String
  | '"' :: r => toText (basicBody r)
  | '\'' :: r => toText (literalBody r)
  | s =>
    match s.span isBare with
    | ([], _) => none
    | (cs, r) => some (String.ofList cs, r)

/-- The parts of a dotted key, at most `n` of them. -/
def keyParts : Nat → Scanner (List String)
  | 0, _ => none
  | n + 1, s =>
    (keyPart s).bind fun (k, r) =>
      match skipBlanks r with
      | '.' :: r => (keyParts n (skipBlanks r)).map fun (ks, r) => (k :: ks, r)
      | r => some ([k], r)

/-- The number of parts that a key may have. -/
def maxKeyParts : Nat := 80

/-- A dotted key, with the blanks after it. -/
def keyPath : Scanner (List String) := keyParts maxKeyParts

end MarkerStrip.Toml
