/-!
# Spans of code points

A character class is a list of spans; a character belongs to it when one of them holds its code
point.
-/

namespace AlgebraDesk.Text

/-- first and last code point, both included -/
abbrev Span := Nat × Nat

def inSpans (spans : List Span) (c : Char) : Bool :=
  spans.any fun s => s.1 ≤ c.toNat && c.toNat ≤ s.2

end AlgebraDesk.Text
