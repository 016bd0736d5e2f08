/-!
# Values

The data that the desk takes from outside and hands out: requests, replies of the backend, and
results before they are printed.  Integers have any size and are not doubles.  The fields of an
object are in the order in which they were first written, and no key occurs twice.

* `Value`    the data;
* `put`      sets a field, in its old place if it has one;
* `field?`   a field of an object;
* `isFilled` whether a value counts as present: not null, false, zero or empty.
-/

namespace AlgebraDesk

inductive Value where
  | null
  | bool (b : Bool)
  | int (n : Int)
  | real (x : Float)
  | text (s : String)
  | list (items : List Value)
  | object (fields : List (String × Value))
  deriving Inhabited

namespace Value

/-! ## fields -/

def put (key : String) (v : Value) : List (String × Value) → List (String × Value)
  | [] => [(key, v)]
  | (k, w) :: fields => if k == key then (k, v) :: fields else (k, w) :: put key v fields

def lookup? (key : String) (fields : List (String × Value)) : Option Value :=
  (fields.find? (·.1 == key)).map (·.2)

def field? (key : String) : Value → Option Value
  | .object fields => lookup? key fields
  | _ => none

theorem lookup?_put_self (key : String) (v : Value) (fields : List (String × Value)) :
    lookup? key (put key v fields) = some v := by
  induction fields with
  | nil => simp [put, lookup?]
  | cons f fields ih =>
    obtain ⟨k, w⟩ := f
    by_cases h : k = key
    · simp [put, lookup?, h]
    · have h' : (k == key) = false := by simpa using h
      simp only [put, h', Bool.false_eq_true, if_false, lookup?, List.find?_cons]
      exact ih

/-! ## presence -/

def isFilled : Value → Bool
  | .null => false
  | .bool b => b
  | .int n => n != 0
  | .real x => x != 0
  | .text s => !s.isEmpty
  | .list items => !items.isEmpty
  | .object fields => !fields.isEmpty

def reals (xs : List Float) : Value := .list (xs.map .real)

end Value

end AlgebraDesk
