import AlgebraDesk.Fault
import AlgebraDesk.Log.Note

/-!
# Thresholds

The log keeps the notes of a weight and above.  The weight is asked for by the name of a level, in
any letter case; no name, and a name that the log does not know, ask for warnings.

* `weightOfName`  the weight for a name;
* `weightOf`      the weight for a value that is a name or missing;
* `kept`          the notes that a threshold lets through.
-/

namespace AlgebraDesk.Log

/-- Equality of an upper-case letter with a character in any case; a dotless i stands for I, and a
long s for S. -/
def sameCapital (k c : Char) : Bool :=
  c.toUpper == k || (k == 'I' && c == 'ı') || (k == 'S' && c == 'ſ')

def sameCapitals : List Char → List Char → Bool
  | [], [] => true
  | k :: ks, c :: cs => sameCapital k c && sameCapitals ks cs
  | _, _ => false

/-- Two names belong to the log without being levels, and asking for them is a fault. -/
def weights : List (String × Except Fault Nat) :=
  [("DEBUG", .ok 10), ("INFO", .ok 20), ("WARNING", .ok 30), ("WARN", .ok 30), ("ERROR", .ok 40),
   ("CRITICAL", .ok 50), ("FATAL", .ok 50), ("NOTSET", .ok 0),
   ("BASIC_FORMAT", .error .badValue), ("_STYLES", .error .wrongKind)]

def usualWeight : Nat := Level.warning.weight

def weightOfName (name : String) : Except Fault Nat :=
  match weights.find? fun w => sameCapitals w.1.toList name.toList with
  | some (_, weight) => weight
  | none => .ok usualWeight

def weightOf (v : Value) : Except Fault Nat :=
  match v with
  | .text name => if name.isEmpty then .ok usualWeight else weightOfName name
  | v => if v.isFilled then .error .missingMember else .ok usualWeight

/-- The name of the log that all parts write to. -/
def rootName : String := "mathexplorer"

def kept (threshold : Nat) (notes : List Note) : List Note :=
  notes.filter fun n => threshold ≤ n.level.weight

end AlgebraDesk.Log
