import AlgebraDesk.Decimal.Shortest
import AlgebraDesk.Text.Quoted
import AlgebraDesk.Value.Basic

/-!
# Values as text

How a value appears inside a message.  A text stands for itself; inside a list or an object it is
quoted.

* `literal`  the text of a value as part of another one;
* `shown`    the text of a value on its own.
-/

namespace AlgebraDesk.Value

open Decimal (Notation)

mutual

def literal : Value → String
  | .null => "None"
  | .bool b => if b then "True" else "False"
  | .int n => toString n
  | .real x => Notation.plain.text x
  | .text s => Text.quoted s
  | .list items => "[" ++ ", ".intercalate (literals items) ++ "]"
  | .object fields => "\x7b" ++ ", ".intercalate (literalFields fields) ++ "\x7d"

def literals : List Value → List String
  | [] => []
  | v :: vs => literal v :: literals vs

def literalFields : List (String × Value) → List String
  | [] => []
  | (k, v) :: fields => (Text.quoted k ++ ": " ++ literal v) :: literalFields fields

end

def shown : Value → String
  | .text s => s
  | v => literal v

end AlgebraDesk.Value
