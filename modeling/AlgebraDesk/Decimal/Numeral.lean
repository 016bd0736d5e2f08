import AlgebraDesk.Decimal.Shortest
import AlgebraDesk.Text.Blank
import AlgebraDesk.Text.Digit

/-!
# Reading numbers

Numbers that users and replies spell as text.  Blanks around a number are ignored, the digits may be
those of any script, and one low line may stand between two digits.  A real number may have a point,
an exponent, or be one of the words for infinity and for no number; an integer is a sign and digits,
and no more than 4300 of these.

* `Digits.toFloat`  the nearest double to a decimal, infinite when out of range;
* `unsigned?`       a decimal without sign;
* `real?`           a real number;
* `integer?`        an integer.
-/

namespace AlgebraDesk.Decimal

open Text (digitValue? isBlank)

/-! ## from digits to a double -/

/-- Powers of ten far outside the range of doubles are not computed. -/
def Digits.toFloat (negative : Bool) (d : Digits) : Float :=
  let top := d.exponent + (digits d.significand).length
  if d.significand = 0 ∨ top < -400 then Double.ofCode negative 0
  else if 400 < top then Double.ofCode negative Double.infinityCode
  else
    let (num, den) := d.ratio
    Double.nearest negative num den

/-! ## the parts of a numeral -/

/-- The number that a row of digits spells, most significant first. -/
def digitsValue (cs : List Char) : Nat :=
  cs.foldl (fun n c => 10 * n + (digitValue? c).getD 0) 0

theorem digitsValue_nil : digitsValue [] = 0 := rfl

/-- The leading digits, and what follows them. -/
def spanDigits (cs : List Char) : List Char × List Char :=
  (cs.takeWhile Text.isDigit, cs.dropWhile Text.isDigit)

theorem spanDigits_append (cs : List Char) : (spanDigits cs).1 ++ (spanDigits cs).2 = cs :=
  List.takeWhile_append_dropWhile

def splitSign : List Char → Bool × List Char
  | '+' :: cs => (false, cs)
  | '-' :: cs => (true, cs)
  | cs => (false, cs)

/-- An exponent that is the whole rest; none when there is a rest of another kind. -/
def exponent? : List Char → Option Int
  | [] => some 0
  | e :: cs =>
    if e == 'e' || e == 'E' then
      let (negative, ds) := splitSign cs
      if ds.isEmpty || !ds.all Text.isDigit then none
      else some (Double.signed negative (digitsValue ds))
    else none

/-- A decimal without sign: digits, a point and more digits, an exponent; at least one digit. -/
def unsigned? (cs : List Char) : Option Digits :=
  let (whole, rest) := spanDigits cs
  let (frac, rest) := match rest with
    | '.' :: r => spanDigits r
    | r => ([], r)
  if whole.isEmpty && frac.isEmpty then none
  else (exponent? rest).map fun e => ⟨digitsValue (whole ++ frac), e - frac.length⟩

/-! ## texts that spell a number -/

/-- The four separators are blanks, but not around a number. -/
def isNumeralBlank (c : Char) : Bool := isBlank c && !(0x1C ≤ c.toNat && c.toNat ≤ 0x1F)

def trimNumeral (cs : List Char) : List Char :=
  ((cs.dropWhile isNumeralBlank).reverse.dropWhile isNumeralBlank).reverse

/-- A low line stands between two digits. -/
def lowLinesFit (afterDigit : Bool) : List Char → Bool
  | [] => true
  | '_' :: c :: cs => afterDigit && Text.isDigit c && lowLinesFit true cs
  | ['_'] => false
  | c :: cs => lowLinesFit (Text.isDigit c) cs

/-- The characters of a numeral without blanks around it and low lines inside. -/
def numeralChars? (cs : List Char) : Option (List Char) :=
  let cs := trimNumeral cs
  if lowLinesFit false cs then some (cs.filter (· != '_')) else none

def infinityWords : List String := ["inf", "infinity"]

def real? (cs : List Char) : Option Float := do
  let (negative, body) := splitSign (← numeralChars? cs)
  let word := String.ofList (body.map Char.toLower)
  if infinityWords.contains word then some (Double.ofCode negative Double.infinityCode)
  else if word == "nan" then some (Double.ofCode false Double.nanCode)
  else (unsigned? body).map (·.toFloat negative)

def maxIntegerDigits : Nat := 4300

def integer? (cs : List Char) : Option Int := do
  let (negative, body) := splitSign (← numeralChars? cs)
  if body.isEmpty || !body.all Text.isDigit || maxIntegerDigits < body.length then none
  else some (Double.signed negative (digitsValue body))

end AlgebraDesk.Decimal
