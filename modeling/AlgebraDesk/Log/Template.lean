import AlgebraDesk.Decimal.Significant
import AlgebraDesk.Value.Notation
import AlgebraDesk.Value.Number

/-!
# Message templates

The message of a log record may be a template with directives, each of which takes the next argument
and says how it is written.  A directive is a percent sign, flags, a width, a point with a precision,
and a letter; a star takes the width or the precision from the arguments.  Two percent signs stand
for one.

* `Directive`   how one argument is written;
* `readDirective`  a directive at the start of a text, with what follows it;
* `Directive.render`  an argument as a directive says;
* `fill`        a template with all its arguments; none may be left over.
-/

namespace AlgebraDesk.Log.Template

open Double (Magnitude)

structure Directive where
  alignLeft : Bool := false
  showPlus : Bool := false
  blankSign : Bool := false
  alternate : Bool := false
  padZeros : Bool := false
  width : Nat := 0
  precision? : Option Nat := none
  letter : Char := 's'

/-! ## reading a directive -/

def isFlag (c : Char) : Bool := c == '-' || c == '+' || c == ' ' || c == '#' || c == '0'

def withFlags (flags : List Char) : Directive where
  alignLeft := flags.contains '-'
  showPlus := flags.contains '+'
  blankSign := flags.contains ' '
  alternate := flags.contains '#'
  padZeros := flags.contains '0'

def maxWidth : Nat := 9223372036854775807

def maxPrecision : Nat := 2147483647

/-- The number that leading digits spell, and the rest; a number beyond the limit is a fault. -/
def readCount (limit : Nat) (cs : List Char) : Except Fault (Nat × List Char) :=
  let n := (cs.takeWhile Char.isDigit).foldl (fun n c => 10 * n + (c.toNat - 48)) 0
  if limit < n then .error .badValue else .ok (n, cs.dropWhile Char.isDigit)

/-- The next argument. -/
def next : List Value → Except Fault (Value × List Value)
  | [] => .error .wrongKind
  | v :: vs => .ok (v, vs)

/-- The integer that a star takes from the arguments. -/
def nextCount (limit : Nat) (args : List Value) : Except Fault (Int × List Value) := do
  let (v, rest) ← next args
  match v, v.toNumber? with
  | .real _, _ => .error .wrongKind
  | _, some (.int n) => if limit < n.natAbs then .error .tooLarge else return (n, rest)
  | _, _ => .error .wrongKind

/-- A text that is being read, with the arguments that are left. -/
structure Cursor where
  chars : List Char
  args : List Value

/-- A width that a star takes is negative to align to the left. -/
def readWidth (d : Directive) (c : Cursor) : Except Fault (Directive × Cursor) :=
  match c.chars with
  | '*' :: cs => do
    let (n, args) ← nextCount maxWidth c.args
    return ({ d with width := n.natAbs, alignLeft := d.alignLeft || n < 0 }, ⟨cs, args⟩)
  | cs => do
    let (n, cs) ← readCount maxWidth cs
    return ({ d with width := n }, ⟨cs, c.args⟩)

/-- A precision that a star takes counts as 0 when it is negative. -/
def readPrecision (d : Directive) (c : Cursor) : Except Fault (Directive × Cursor) :=
  match c.chars with
  | '.' :: '*' :: cs => do
    let (n, args) ← nextCount maxPrecision c.args
    return ({ d with precision? := some n.toNat }, ⟨cs, args⟩)
  | '.' :: cs => do
    let (n, cs) ← readCount maxPrecision cs
    return ({ d with precision? := some n }, ⟨cs, c.args⟩)
  | _ => .ok (d, c)

/-- One letter for the size of a number may stand before the letter of the directive. -/
def dropSize : List Char → List Char
  | 'h' :: cs | 'l' :: cs | 'L' :: cs => cs
  | cs => cs

/-- A directive without its percent sign.  Arguments have no names, so none may be asked for. -/
def readDirective (c : Cursor) : Except Fault (Directive × Cursor) := do
  if c.chars.head? == some '(' then .error .wrongKind
  else
    let d := withFlags (c.chars.takeWhile isFlag)
    let (d, c) ← readWidth d ⟨c.chars.dropWhile isFlag, c.args⟩
    let (d, c) ← readPrecision d c
    match dropSize c.chars with
    | [] => .error .badValue
    | letter :: cs => return ({ d with letter }, ⟨cs, c.args⟩)

/-! ## writing an argument -/

namespace Directive

/-- A sign, what stands between it and the digits, and the digits. -/
structure Parts where
  sign : List Char := []
  lead : List Char := []
  body : List Char

def spread (d : Directive) (zeros : Bool) (p : Parts) : List Char :=
  let content := p.sign ++ p.lead ++ p.body
  let gap := d.width - content.length
  if d.alignLeft then content ++ List.replicate gap ' '
  else if zeros && d.padZeros then p.sign ++ p.lead ++ List.replicate gap '0' ++ p.body
  else List.replicate gap ' ' ++ content

def signOf (d : Directive) (negative : Bool) : List Char :=
  if negative then ['-'] else if d.showPlus then ['+'] else if d.blankSign then [' '] else []

/-- The text of a value, cut to the precision. -/
def textChars (d : Directive) (s : String) : List Char :=
  match d.precision? with
  | some n => s.toList.take n
  | none => s.toList

/-- Characters beyond ASCII by code. -/
def asciiChars (s : String) : List Char :=
  s.toList.flatMap fun c =>
    if c.toNat < 0x80 then [c]
    else if c.toNat < 0x100 then '\\' :: 'x' :: Text.hex 2 c.toNat
    else if c.toNat < 0x10000 then '\\' :: 'u' :: Text.hex 4 c.toNat
    else '\\' :: 'U' :: Text.hex 8 c.toNat

/-! ### integers -/

def isIntegerLetter (c : Char) : Bool := c == 'd' || c == 'i' || c == 'u'

/-- Any number in decimal, by its integer part. -/
def decimalArgument (v : Value) : Except Fault Int :=
  match v with
  | .text _ => .error .wrongKind
  | v => v.readInteger

/-- Only an integer has a text in another base. -/
def integerArgument (v : Value) : Except Fault Int :=
  match v.toNumber? with
  | some (.int n) => .ok n
  | _ => .error .wrongKind

def base (c : Char) : Nat := if c == 'o' then 8 else if isIntegerLetter c then 10 else 16

def leadOf (d : Directive) : List Char :=
  if d.alternate && !isIntegerLetter d.letter then ['0', d.letter] else []

def integerParts (d : Directive) (n : Int) : Parts :=
  let ds := Decimal.padZeros (d.precision?.getD 0) (Nat.toDigits (base d.letter) n.natAbs)
  { sign := d.signOf (n < 0)
    lead := d.leadOf
    body := if d.letter == 'X' then ds.map Char.toUpper else ds }

/-! ### reals -/

def isRealLetter (c : Char) : Bool :=
  c == 'e' || c == 'E' || c == 'f' || c == 'F' || c == 'g' || c == 'G'

/-- The precision when none is given. -/
def usualPlaces : Nat := 6

def magnitudeChars (d : Directive) (m : Magnitude) : List Char :=
  let places := d.precision?.getD usualPlaces
  match d.letter.toLower with
  | 'e' => Decimal.scientificChars d.alternate places m
  | 'f' => Decimal.fixedChars places (Decimal.fixedUnits places m)
      ++ (if d.alternate && places == 0 then ['.'] else [])
  | _ => Decimal.generalChars d.alternate places m

def realParts (d : Directive) (x : Float) : Parts :=
  let cased (cs : List Char) := if d.letter.isUpper then cs.map Char.toUpper else cs
  match Double.form x with
  | .finite negative m => { sign := d.signOf negative, body := cased (d.magnitudeChars m) }
  | .infinite negative => { sign := d.signOf negative, body := cased "inf".toList }
  | .nan => { sign := d.signOf false, body := cased "nan".toList }

def realArgument (v : Value) : Except Fault Float := do (← v.asNumber).toReal

/-! ### characters -/

def maxCode : Nat := 0x10FFFF

/-- A text of one character, or the code of one. -/
def charArgument (v : Value) : Except Fault Char :=
  match v, v.toNumber? with
  | .text s, _ => match s.toList with
    | [c] => .ok c
    | _ => .error .wrongKind
  | _, some (.int n) =>
    if 0 ≤ n && n ≤ maxCode then .ok (Char.ofNat n.toNat) else .error .tooLarge
  | _, _ => .error .wrongKind

/-! ### any directive -/

def render (d : Directive) (v : Value) : Except Fault (List Char) :=
  let c := d.letter
  if c == 's' then .ok (d.spread false { body := d.textChars v.shown })
  else if c == 'r' then .ok (d.spread false { body := d.textChars v.literal })
  else if c == 'a' then
    .ok (d.spread false { body := d.textChars (String.ofList (asciiChars v.literal)) })
  else if c == 'c' then do return d.spread false { body := [← charArgument v] }
  else if isIntegerLetter c then do
    return d.spread true (d.integerParts (← decimalArgument v))
  else if c == 'o' || c == 'x' || c == 'X' then do
    return d.spread true (d.integerParts (← integerArgument v))
  else if isRealLetter c then do return d.spread true (d.realParts (← realArgument v))
  else .error .badValue

end Directive

/-! ## filling a template -/

def renderNext (d : Directive) (args : List Value) : Except Fault (List Char × List Value) := do
  let (v, rest) ← next args
  return (← d.render v, rest)

/-- `fuel` bounds the number of characters. -/
def fillFrom (fuel : Nat) (c : Cursor) : Except Fault (List Char) :=
  match fuel, c.chars with
  | _, [] => if c.args.isEmpty then .ok [] else .error .wrongKind
  | 0, _ => .error .wrongKind
  | fuel + 1, '%' :: '%' :: cs => do return '%' :: (← fillFrom fuel ⟨cs, c.args⟩)
  | fuel + 1, '%' :: cs => do
    let (d, c) ← readDirective ⟨cs, c.args⟩
    let (text, args) ← renderNext d c.args
    return text ++ (← fillFrom fuel ⟨c.chars, args⟩)
  | fuel + 1, x :: cs => do return x :: (← fillFrom fuel ⟨cs, c.args⟩)

def fill (template : String) (args : List Value) : Except Fault String := do
  let cs := template.toList
  return String.ofList (← fillFrom cs.length ⟨cs, args⟩)

end AlgebraDesk.Log.Template
