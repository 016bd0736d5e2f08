import AlgebraDesk.Decimal.Numeral
import AlgebraDesk.Value.Basic

/-!
# Reading JSON

A reader of JSON texts that also takes `NaN`, `Infinity` and `-Infinity`.  A number without point
and exponent is an integer of any size up to 4300 digits; any other number is the nearest double,
infinite when out of range.  Of a key that occurs twice the last value counts, in the place of the
first.  Controls inside a text are refused, and so is anything after the value but blanks.

* `readValue`  a value and the rest, with a bound on the number of steps;
* `read?`      the value that a whole text spells.
-/

namespace AlgebraDesk.Json

def skipBlanks (cs : List Char) : List Char :=
  cs.dropWhile fun c => c == ' ' || c == '\t' || c == '\n' || c == '\r'

/-! ## texts -/

def hexValue? (c : Char) : Option Nat :=
  if c.isDigit then some (c.toNat - 48)
  else if 'a' ≤ c && c ≤ 'f' then some (c.toNat - 87)
  else if 'A' ≤ c && c ≤ 'F' then some (c.toNat - 55)
  else none

/-- Four hexadecimal digits. -/
def unit? : List Char → Option (Nat × List Char)
  | a :: b :: c :: d :: cs => do
    let n := 4096 * (← hexValue? a) + 256 * (← hexValue? b) + 16 * (← hexValue? c) + (← hexValue? d)
    some (n, cs)
  | _ => none

def isHighUnit (n : Nat) : Bool := 0xD800 ≤ n && n < 0xDC00

def isLowUnit (n : Nat) : Bool := 0xDC00 ≤ n && n < 0xE000

/-- The character of a unit, with a second unit when the two form a pair; a unit without its pair is
a replacement character. -/
def escapedChar? (cs : List Char) : Option (Char × List Char) := do
  let (n, rest) ← unit? cs
  let alone := if isHighUnit n || isLowUnit n then '\uFFFD' else Char.ofNat n
  if isHighUnit n then
    match rest with
    | '\\' :: 'u' :: more => match unit? more with
      | some (m, rest') =>
        if isLowUnit m then some (Char.ofNat (0x10000 + (n - 0xD800) * 1024 + (m - 0xDC00)), rest')
        else some (alone, rest)
      | none => none
    | _ => some (alone, rest)
  else some (alone, rest)

/-- The letter of a short escape. -/
def shortEscape? (c : Char) : Option Char :=
  if c == '"' || c == '\\' || c == '/' then some c
  else if c == 'b' then some (Char.ofNat 0x08)
  else if c == 'f' then some (Char.ofNat 0x0C)
  else if c == 'n' then some '\n'
  else if c == 'r' then some '\r'
  else if c == 't' then some '\t'
  else none

/-- The characters up to the closing quote; `fuel` is at least the length. -/
def textBody? : Nat → List Char → List Char → Option (String × List Char)
  | 0, _, _ => none
  | _ + 1, _, [] => none
  | fuel + 1, seen, c :: cs =>
    if c == '"' then some (String.ofList seen.reverse, cs)
    else if c == '\\' then
      match cs with
      | [] => none
      | e :: rest =>
        if e == 'u' then
          match escapedChar? rest with
          | some (d, rest') => textBody? fuel (d :: seen) rest'
          | none => none
        else match shortEscape? e with
          | some d => textBody? fuel (d :: seen) rest
          | none => none
    else if c.toNat < 0x20 then none
    else textBody? fuel (c :: seen) cs

/-! ## numbers -/

/-- The longest prefix that is a number, with its minus sign, and whether it is an integer. -/
def spanNumber (cs : List Char) : Option (List Char × Bool × List Char) :=
  let (sign, body) := match cs with
    | '-' :: r => (['-'], r)
    | r => ([], r)
  let (whole, rest) := match body with
    | '0' :: r => (['0'], r)
    | r => (r.takeWhile Char.isDigit, r.dropWhile Char.isDigit)
  if whole.isEmpty then none
  else
    let (frac, rest) := match rest with
      | '.' :: r =>
        let ds := r.takeWhile Char.isDigit
        if ds.isEmpty then ([], rest) else ('.' :: ds, r.dropWhile Char.isDigit)
      | _ => ([], rest)
    let (exponent, rest) := match rest with
      | e :: r =>
        if e == 'e' || e == 'E' then
          let (mark, digits) := match r with
            | '+' :: r' => (['+'], r')
            | '-' :: r' => (['-'], r')
            | r' => ([], r')
          let ds := digits.takeWhile Char.isDigit
          if ds.isEmpty then ([], rest) else ('e' :: mark ++ ds, digits.dropWhile Char.isDigit)
        else ([], rest)
      | [] => ([], rest)
    some (sign ++ whole ++ frac ++ exponent, frac.isEmpty && exponent.isEmpty, rest)

def number? (cs : List Char) : Option (Value × List Char) := do
  let (spelling, isInteger, rest) ← spanNumber cs
  if isInteger then some (.int (← Decimal.integer? spelling), rest)
  else some (.real (← Decimal.real? spelling), rest)

/-- The words that stand for a value. -/
def word? (cs : List Char) : Option (Value × List Char) :=
  let words : List (String × Value) :=
    [("null", .null), ("true", .bool true), ("false", .bool false),
     ("NaN", .real (Double.ofCode false Double.nanCode)),
     ("Infinity", .real (Double.ofCode false Double.infinityCode)),
     ("-Infinity", .real (Double.ofCode true Double.infinityCode))]
  words.findSome? fun (w, v) =>
    if w.toList.isPrefixOf cs then some (v, cs.drop w.length) else none

/-! ## values -/

mutual

/-- A value at the start of a text; `fuel` is at least its length. -/
def readValue : Nat → List Char → Option (Value × List Char)
  | 0, _ => none
  | fuel + 1, cs =>
    match cs with
    | '"' :: rest => (textBody? (rest.length + 1) [] rest).map fun (s, r) => (.text s, r)
    | '[' :: rest =>
      match skipBlanks rest with
      | ']' :: r => some (.list [], r)
      | r => readItems fuel [] r
    | '\x7b' :: rest =>
      match skipBlanks rest with
      | '\x7d' :: r => some (.object [], r)
      | r => readFields fuel [] r
    | _ => (word? cs).or (number? cs)

/-- The items after `seen`, up to the closing bracket. -/
def readItems : Nat → List Value → List Char → Option (Value × List Char)
  | 0, _, _ => none
  | fuel + 1, seen, cs =>
    match readValue fuel cs with
    | none => none
    | some (v, r) =>
      match skipBlanks r with
      | ']' :: r => some (.list (v :: seen).reverse, r)
      | ',' :: r => readItems fuel (v :: seen) (skipBlanks r)
      | _ => none

/-- The fields after `seen`, up to the closing brace. -/
def readFields : Nat → List (String × Value) → List Char → Option (Value × List Char)
  | 0, _, _ => none
  | fuel + 1, seen, cs =>
    match cs with
    | '"' :: rest =>
      match textBody? (rest.length + 1) [] rest with
      | none => none
      | some (key, r) =>
        match skipBlanks r with
        | ':' :: r =>
          match readValue fuel (skipBlanks r) with
          | none => none
          | some (v, r) =>
            match skipBlanks r with
            | '\x7d' :: r => some (.object (Value.put key v seen), r)
            | ',' :: r => readFields fuel (Value.put key v seen) (skipBlanks r)
            | _ => none
        | _ => none
    | _ => none

end

def readChars? (cs : List Char) : Option Value :=
  let cs := skipBlanks cs
  match readValue (2 * cs.length + 2) cs with
  | some (v, rest) => if (skipBlanks rest).isEmpty then some v else none
  | none => none

def read? (s : String) : Option Value := readChars? s.toList

end AlgebraDesk.Json
