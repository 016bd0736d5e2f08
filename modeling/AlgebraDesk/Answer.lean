import AlgebraDesk.Value.Basic

/-!
# Answers of a tool

A tool of the desk answers with a text and maybe a number, or it says what is wrong, in words and by
a code.
-/

namespace AlgebraDesk

inductive Answer where
  | done (result : String) (value? : Option Float)
  | failed (message code : String)

namespace Answer

def isDone : Answer → Bool
  | .done .. => true
  | .failed .. => false

def fields : Answer → List (String × Value)
  | .done result value? =>
    [("ok", .bool true), ("result", .text result)]
      ++ (value?.map fun x => ("value", Value.real x)).toList
  | .failed message code =>
    [("ok", .bool false), ("error", .text message), ("error_code", .text code)]

end Answer

end AlgebraDesk
