import AlgebraDesk.CommandLine.Name
import AlgebraDesk.Text.Digit

/-!
# Items of a command line

Each argument is an option or a word.  What begins with a dash is an option, unless it is a lone
dash, a negative number, or holds a space; after two dashes alone, everything is a word.  A value
may be attached to an option: to a word by an equality sign, to a letter also directly.

* `Attached`    a value attached to an option;
* `Item`        what an argument is;
* `Item.read`   an argument as an item; a cut word that fits several options is refused;
* `readItems`   a whole command line.
-/

namespace AlgebraDesk.CommandLine

structure Attached where
  /-- by an equality sign, not directly -/
  isAssigned : Bool
  text : List Char
  deriving DecidableEq, Repr

inductive Item where
  | word (text : String)
  /-- two dashes alone -/
  | stop
  /-- an option by its letter or by its word -/
  | option (n : Name) (byLetter : Bool) (attached? : Option Attached)
  | unknown
  deriving DecidableEq, Repr

/-- The text before the first equality sign, and the text after it if there is one. -/
def splitAssigned (cs : List Char) : List Char × Option (List Char) :=
  match cs.dropWhile (· != '=') with
  | [] => (cs, none)
  | _ :: value => (cs.takeWhile (· != '='), some value)

def assigned (value? : Option (List Char)) : Option Attached :=
  value?.map fun text => ⟨true, text⟩

/-- Digits, or a point among or before them; a line feed may follow. -/
def isNegativeNumber (cs : List Char) : Bool :=
  let body := if cs.getLast? == some '\n' then cs.dropLast else cs
  match body with
  | '-' :: rest =>
    match rest.dropWhile Text.isDigit with
    | [] => !rest.isEmpty
    | '.' :: places => !places.isEmpty && places.all Text.isDigit
    | _ => false
  | _ => false

namespace Item

/-- An option by its word, which may be cut short. -/
def ofWord (cs : List Char) : Except Unit (Option Item) :=
  let (stem, value?) := splitAssigned cs
  match Name.ofWord? cs, Name.ofWord? stem, Name.beginning stem with
  | some n, _, _ => .ok (some (.option n false none))
  | none, some n, _ => .ok (some (.option n false (assigned value?)))
  | none, none, [n] => .ok (some (.option n false (assigned value?)))
  | none, none, [] => .ok none
  | none, none, _ => .error ()

/-- An option by its letter, with what is attached to it. -/
def ofLetter (c : Char) (rest : List Char) : Option Item :=
  (Name.ofLetter? c).map fun n =>
    .option n true <| match rest with
      | [] => none
      | '=' :: value => some ⟨true, value⟩
      | text => some ⟨false, text⟩

/-- What begins with a dash but names no option. -/
def other (s : String) (cs : List Char) : Item :=
  if isNegativeNumber cs || cs.contains ' ' then .word s else .unknown

/-- An argument other than two dashes alone. -/
def read (s : String) : Except Unit Item :=
  match s.toList with
  | '-' :: '-' :: cs => do return (← ofWord cs).getD (other s s.toList)
  | '-' :: c :: cs => .ok ((ofLetter c cs).getD (other s s.toList))
  | _ => .ok (.word s)

end Item

/-- The arguments up to two dashes alone are read, and those after it are words. -/
def readItems : List String → Except Unit (List Item)
  | [] => .ok []
  | s :: rest =>
    if s == "--" then .ok (.stop :: rest.map .word)
    else do
      let item ← Item.read s
      return item :: (← readItems rest)

end AlgebraDesk.CommandLine
