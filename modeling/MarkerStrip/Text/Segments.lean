/-
  Cutting a text at every occurrence of a separator.

  There is one segment more than separators, and a segment may be empty.
-/

namespace MarkerStrip.Text

/-- The segments of `cs` between the characters `sep`. -/
def segments (sep : Char) : List Char → List (List Char)
  | [] => [[]]
  | c :: cs =>
    if c == sep then [] :: segments sep cs
    else match segments sep cs with
      | [] => [[c]]
      | w :: ws => (c :: w) :: ws

end MarkerStrip.Text
