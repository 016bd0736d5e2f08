import AlgebraDesk.Decimal.Shortest
import AlgebraDesk.Text.Quoted
import AlgebraDesk.Value.Basic

/-!
# Writing JSON

Values as JSON text, on one line or with one item a line.  Characters beyond ASCII stand for
themselves; quotes, backslashes and controls are escaped.  Doubles have their shortest digits, and
the ones that are not finite are written `NaN` and `Infinity`.

* `escapeChar`    one character of a text;
* `Layout`        `compact`, or indented by a number of spaces a level;
* `write`         a value in a layout.
-/

namespace AlgebraDesk.Json

open Decimal (Notation)

def escapeChar (c : Char) : List Char :=
  if c == '"' then ['\\', '"']
  else if c == '\\' then ['\\', '\\']
  else if c == '\n' then ['\\', 'n']
  else if c == '\r' then ['\\', 'r']
  else if c == '\t' then ['\\', 't']
  else if c.toNat == 0x0C then ['\\', 'f']
  else if c.toNat == 0x08 then ['\\', 'b']
  else if c.toNat < 0x20 then '\\' :: 'u' :: Text.hex 4 c.toNat
  else [c]

def writeText (s : String) : String :=
  String.ofList ('"' :: s.toList.flatMap escapeChar ++ ['"'])

def numbers : Notation := { Notation.plain with infinity := "Infinity", nan := "NaN" }

inductive Layout where
  | compact
  | indented (step : Nat)

/-- What stands before an item at a depth. -/
def Layout.lineStart (l : Layout) (depth : Nat) : String :=
  match l with
  | .compact => ""
  | .indented step => "\n" ++ "".pushn ' ' (step * depth)

def Layout.separator : Layout → String
  | .compact => ", "
  | .indented _ => ","

/-- Items between brackets; an empty list has nothing between them. -/
def enclose (l : Layout) (depth : Nat) (opening closing : String) (items : List String) : String :=
  match items with
  | [] => opening ++ closing
  | _ => opening ++ l.lineStart (depth + 1)
      ++ (l.separator ++ l.lineStart (depth + 1)).intercalate items
      ++ l.lineStart depth ++ closing

mutual

def writeAt (l : Layout) (depth : Nat) : Value → String
  | .null => "null"
  | .bool b => if b then "true" else "false"
  | .int n => toString n
  | .real x => numbers.text x
  | .text s => writeText s
  | .list items => enclose l depth "[" "]" (writeItems l (depth + 1) items)
  | .object fields => enclose l depth "\x7b" "\x7d" (writeFields l (depth + 1) fields)

def writeItems (l : Layout) (depth : Nat) : List Value → List String
  | [] => []
  | v :: vs => writeAt l depth v :: writeItems l depth vs

def writeFields (l : Layout) (depth : Nat) : List (String × Value) → List String
  | [] => []
  | (k, v) :: fields => (writeText k ++ ": " ++ writeAt l depth v) :: writeFields l depth fields

end

def write (l : Layout) (v : Value) : String := writeAt l 0 v

end AlgebraDesk.Json
