import AlgebraDesk.Decimal.Display
import AlgebraDesk.Polynomial.Basic
import AlgebraDesk.Value.Number

/-!
# Writing a polynomial

Terms are written from the highest power down.  A term whose coefficient is zero at the display
precision is left out; a coefficient of exactly 1 or -1 shows only its sign in front of a variable;
every term after the first carries a sign.  When no term is left the polynomial is `0`.

* `Coefficient`   what the rules ask about a coefficient;
* `displayTerm`   one term;
* `displayTerms`  the sum;
* `display`       a polynomial with double coefficients.
-/

namespace AlgebraDesk

structure Coefficient where
  negative : Bool
  /-- zero, or shown as zero -/
  vanishes : Bool
  /-- exactly one in magnitude -/
  isUnit : Bool
  /-- the text of the magnitude -/
  numeral : List Char

namespace Coefficient

def ofReal (places : Int) (x : Float) : Coefficient :=
  let numeral := (Decimal.display places x.abs).toList
  ⟨x < 0, x == 0 || numeral == ['0'], x.abs == 1, numeral⟩

/-- An integer is judged exactly, and shown as its double unless it has none. -/
def ofNumber (places : Int) : Number → Coefficient
  | .real x => ofReal places x
  | .int n =>
    let numeral := match Double.ofInt? n.natAbs with
      | some x => (Decimal.display places x).toList
      | none => Decimal.digits n.natAbs
    ⟨n < 0, n == 0 || numeral == ['0'], n.natAbs == 1, numeral⟩

end Coefficient

namespace Polynomial

/-- A term, with its sign unless it is the first and positive. -/
def displayTerm (k : Coefficient) (power : List Char) (first : Bool) : List Char :=
  let body := if !power.isEmpty && k.isUnit then power else k.numeral ++ power
  if k.negative then '-' :: body else if first then body else '+' :: body

def displaySum (first : Bool) : List (Coefficient × List Char) → List Char
  | [] => []
  | (k, power) :: rest =>
    if k.vanishes then displaySum first rest
    else displayTerm k power first ++ displaySum false rest

def displayTerms (a b c : Coefficient) : List Char :=
  match displaySum true [(a, ['x', '^', '2']), (b, ['x']), (c, [])] with
  | [] => ['0']
  | cs => cs

def displayChars (places : Int) (p : Polynomial) : List Char :=
  displayTerms (.ofReal places p.a) (.ofReal places p.b) (.ofReal places p.c)

def display (places : Int) (p : Polynomial) : String := String.ofList (p.displayChars places)

end Polynomial

end AlgebraDesk
