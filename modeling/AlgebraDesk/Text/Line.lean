import AlgebraDesk.Text.Blank

/-!
# Lines

The two lines of a system of equations may be divided by any of the characters that end a line,
not by the line feed alone.  Blank lines do not count.

* `isLineBreak`  the class;
* `inkedLines`   the trimmed lines that are not blank;
* `breakLines`   a text in which a backslash and the letter n stand for a line feed.
-/

namespace AlgebraDesk.Text

def isLineBreak (c : Char) : Bool :=
  inSpans [(0x0A, 0x0D), (0x1C, 0x1E), (0x85, 0x85), (0x2028, 0x2029)] c

def inkedLines (cs : List Char) : List (List Char) :=
  ((pieces isLineBreak cs).filter hasInk).map trim

/-- So that two lines can be typed on one. -/
def breakLines : List Char → List Char
  | [] => []
  | '\\' :: 'n' :: cs => '\n' :: breakLines cs
  | c :: cs => c :: breakLines cs

end AlgebraDesk.Text
