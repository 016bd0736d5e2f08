import AlgebraDesk.Text.Quoted
import AlgebraDesk.Value.Notation

/-!
# Log notes

What a part of the desk has to say about its work.  The part does not write the log itself: it gives
its notes beside its result, and the desk keeps those of the level it was asked for.

* `Level`  the levels and their weights;
* `Note`   level, part, message, and further fields.
-/

namespace AlgebraDesk.Log

inductive Level where
  | debug | info | warning | error
  deriving DecidableEq, Repr

namespace Level

def weight : Level → Nat
  | .debug => 10
  | .info => 20
  | .warning => 30
  | .error => 40

def name : Level → String
  | .debug => "DEBUG"
  | .info => "INFO"
  | .warning => "WARNING"
  | .error => "ERROR"

end Level

structure Note where
  level : Level
  part : String
  message : String
  extras : List (String × Value) := []

namespace Note

def debug (part message : String) : Note := ⟨.debug, part, message, []⟩

def warning (part message : String) (extras : List (String × Value)) : Note :=
  ⟨.warning, part, message, extras⟩

end Note

end AlgebraDesk.Log
