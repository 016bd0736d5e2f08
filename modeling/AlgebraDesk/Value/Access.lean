import AlgebraDesk.Fault
import AlgebraDesk.Value.Basic

/-!
# Parts of values

Data from outside is taken apart without knowing its shape beforehand.  Each way of reaching a part
has a fault of its own when the part is not there.

* `elements`  the parts one after the other: items, characters, or keys;
* `element`   the part at a position;
* `entry`     the part under a key, which must be there;
* `entry?`    the part under a key, which may be missing.
-/

namespace AlgebraDesk.Value

def characters (s : String) : List Value := s.toList.map fun c => .text c.toString

def elements : Value → Except Fault (List Value)
  | .list items => .ok items
  | .text s => .ok (characters s)
  | .object fields => .ok (fields.map fun f => .text f.1)
  | _ => .error .wrongKind

def itemAt (items : List Value) (i : Nat) : Except Fault Value :=
  match items[i]? with
  | some v => .ok v
  | none => .error .outOfBounds

/-- The keys of an object are texts, so no position is a key. -/
def element (v : Value) (i : Nat) : Except Fault Value :=
  match v with
  | .list items => itemAt items i
  | .text s => itemAt (characters s) i
  | .object _ => .error .missingKey
  | _ => .error .wrongKind

def entry (v : Value) (key : String) : Except Fault Value :=
  match v with
  | .object fields => match lookup? key fields with
    | some w => .ok w
    | none => .error .missingKey
  | _ => .error .wrongKind

def entry? (v : Value) (key : String) : Except Fault (Option Value) :=
  match v with
  | .object fields => .ok (lookup? key fields)
  | _ => .error .missingMember

/-- The fields of an object. -/
def entries : Value → Except Fault (List (String × Value))
  | .object fields => .ok fields
  | _ => .error .missingMember

end AlgebraDesk.Value
