import AlgebraDesk.Text.Span

/-!
# Blank characters

Blanks separate words, and the rules that ignore white space ignore exactly these.

* `isBlank`       the class: spaces of every width, tabs, line ends and the four separators
                  U+001C to U+001F; the zero-width space is not one of them;
* `trim`          a text without the blanks at its two ends;
* `removeBlanks`  a text without any blank;
* `pieces`        the parts of a text between characters of a class, empty parts included;
* `words`         the parts between blanks, empty parts left out.
-/

namespace AlgebraDesk.Text

def blankSpans : List Span :=
  [(0x09, 0x0D), (0x1C, 0x20), (0x85, 0x85), (0xA0, 0xA0), (0x1680, 0x1680), (0x2000, 0x200A),
   (0x2028, 0x2029), (0x202F, 0x202F), (0x205F, 0x205F), (0x3000, 0x3000)]

def isBlank (c : Char) : Bool := inSpans blankSpans c

theorem isBlank_space : isBlank ' ' = true := by decide
theorem isBlank_newline : isBlank '\n' = true := by decide

/-! ## trimming -/

def trimStart (cs : List Char) : List Char := cs.dropWhile isBlank

def trimEnd (cs : List Char) : List Char := (cs.reverse.dropWhile isBlank).reverse

def trim (cs : List Char) : List Char := trimEnd (trimStart cs)

def removeBlanks (cs : List Char) : List Char := cs.filter (!isBlank ·)

@[simp] theorem removeBlanks_nil : removeBlanks [] = [] := rfl

theorem removeBlanks_cons (c : Char) (cs : List Char) :
    removeBlanks (c :: cs) = if isBlank c then removeBlanks cs else c :: removeBlanks cs := by
  by_cases h : isBlank c <;> simp [removeBlanks, h]

theorem removeBlanks_append (cs ds : List Char) :
    removeBlanks (cs ++ ds) = removeBlanks cs ++ removeBlanks ds := by
  simp [removeBlanks]

/-- Text that holds a character which is not blank. -/
def hasInk (cs : List Char) : Bool := cs.any (!isBlank ·)

/-! ## splitting -/

/-- The parts of a text between the characters that satisfy `cut`; there is one more part than
there are cuts. -/
def pieces (cut : Char → Bool) : List Char → List (List Char)
  | [] => [[]]
  | c :: cs =>
    if cut c then [] :: pieces cut cs
    else match pieces cut cs with
      | [] => [[c]]
      | p :: ps => (c :: p) :: ps

@[simp] theorem pieces_nil (cut : Char → Bool) : pieces cut [] = [[]] := rfl

theorem pieces_ne_nil (cut : Char → Bool) (cs : List Char) : pieces cut cs ≠ [] := by
  cases cs with
  | nil => simp
  | cons c cs =>
    unfold pieces
    split
    · simp
    · split <;> simp

def words (cs : List Char) : List (List Char) := (pieces isBlank cs).filter (!·.isEmpty)

end AlgebraDesk.Text
