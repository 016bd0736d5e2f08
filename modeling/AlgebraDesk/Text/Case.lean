import AlgebraDesk.Text.CaseTable

/-!
# Lower and title case

Answers and command words are compared in lower case, and labels are shown with a capital first
letter.  Two letters need more than a table: a capital I with a dot becomes two characters, and a
capital sigma at the end of a word becomes the final form.

* `lower`       the lower case of a text;
* `capitalize`  title case for the first character and lower case for the others.
-/

namespace AlgebraDesk.Text

def isCaseIgnorable (c : Char) : Bool := inSpans caseIgnorableSpans c

def isCased (c : Char) : Bool := inSpans casedSpans c

/-- The nearest character that casing does not look through is cased. -/
def nextIsCased (cs : List Char) : Bool :=
  ((cs.dropWhile isCaseIgnorable).head?.map isCased).getD false

/-- The lower case of `c` with the characters `before` it (nearest first) and those `after` it. -/
def lowerChar (before : List Char) (c : Char) (after : List Char) : List Char :=
  if c.toNat < 0x80 then [c.toLower]
  else if c == 'Σ' then [if nextIsCased before && !nextIsCased after then 'ς' else 'σ']
  else if c == 'İ' then ['i', '\u0307']
  else [mapCase lowerRuns c]

def lowerFrom (before : List Char) : List Char → List Char
  | [] => []
  | c :: cs => lowerChar before c cs ++ lowerFrom (c :: before) cs

def lower (cs : List Char) : List Char := lowerFrom [] cs

def titleChar (c : Char) : List Char :=
  if c.toNat < 0x80 then [c.toUpper]
  else match titleExpansions.find? (·.1 == c.toNat) with
    | some (_, ns) => ns.map Char.ofNat
    | none => [mapCase titleRuns c]

def capitalize : List Char → List Char
  | [] => []
  | c :: cs => titleChar c ++ lowerFrom [c] cs

/-- `lower` and `capitalize` on strings. -/
def lowerText (s : String) : String := String.ofList (lower s.toList)

def capitalizeText (s : String) : String := String.ofList (capitalize s.toList)

end AlgebraDesk.Text
