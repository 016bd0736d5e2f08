import AlgebraDesk.Fault
import AlgebraDesk.Value.Notation

/-!
# Why there is no plot

A text may not be a curve, or a curve may not fit on the canvas: these are refusals, each with its
code.  What goes wrong with the numbers on the way is a mishap; a plot reports it in words, a bare
drawing as a fault.

* `Refusal`, `Mishap`, `Failure`  the causes;
* `Refusal.message`, `code`; `Mishap.message`, `fault`  how they are reported.
-/

namespace AlgebraDesk.Plot

inductive Refusal where
  | nothing
  | forbidden (token : String)
  | notACurve
  | unreadable (text : String)
  | otherSymbols (names : List String)
  | invalidRange
  | outOfRange
  deriving DecidableEq, Repr

namespace Refusal

def message : Refusal → String
  | .nothing => "Nothing to plot."
  | .forbidden token => "Input contains forbidden token: " ++ token
  | .notACurve => "Only y=f(x) expressions can be plotted as curves."
  | .unreadable text => "Could not parse graph expression: " ++ text
  | .otherSymbols names =>
    "Only x may appear in a graph expression (found " ++ ", ".intercalate names ++ ")."
  | .invalidRange => "x_min must be smaller than x_max."
  | .outOfRange => "Cannot plot: function values out of range"

def code : Refusal → String
  | .nothing => "EMPTY_GRAPH"
  | .forbidden _ => "FORBIDDEN_TOKEN"
  | .notACurve => "NOT_A_CURVE"
  | .unreadable _ => "PARSE_ERROR"
  | .otherSymbols _ => "FREE_SYMBOLS"
  | .invalidRange => "INVALID_RANGE"
  | .outOfRange => "OUT_OF_RANGE"

end Refusal

/-- The kind of a value, as it is named in messages. -/
def kindName : Value → String
  | .null => "NoneType"
  | .bool _ => "bool"
  | .int _ => "int"
  | .real _ => "float"
  | .text _ => "str"
  | .list _ => "list"
  | .object _ => "dict"

inductive Mishap where
  /-- a position that is not a number -/
  | undefinedCell
  /-- a position at infinity -/
  | infiniteCell
  /-- all points have one x -/
  | noWidth
  | negativeCount (points : Int)
  | hugeInteger
  | hugeQuotient
  | fewCoordinates (count : Nat)
  | manyCoordinates
  | notAPoint (v : Value)
  | notComparable (v : Value)
  | notANumber (v : Value)
  /-- a place that the canvas does not have -/
  | noCell
  /-- a formula with an infinity that has no direction -/
  | boundless
  /-- an integer with more digits than can be written -/
  | manyDigits
  /-- a function of an integer that no machine word holds -/
  | noWord (function : String)
  /-- a power out of the range of doubles -/
  | hugePower
  /-- a negative power of zero -/
  | zeroPower

namespace Mishap

def message : Mishap → String
  | .undefinedCell => "cannot convert float NaN to integer"
  | .infiniteCell => "cannot convert float infinity to integer"
  | .noWidth => "float division by zero"
  | .negativeCount n => "Number of samples, " ++ toString n ++ ", must be non-negative."
  | .hugeInteger => "int too large to convert to float"
  | .hugeQuotient => "integer division result too large for a float"
  | .fewCoordinates n => "not enough values to unpack (expected 2, got " ++ toString n ++ ")"
  | .manyCoordinates => "too many values to unpack (expected 2)"
  | .notAPoint v => "cannot unpack non-iterable " ++ kindName v ++ " object"
  | .notComparable v =>
    "'<=' not supported between instances of 'float' and '" ++ kindName v ++ "'"
  | .notANumber v => "could not convert string to float: " ++ v.literal
  | .noCell => "list index out of range"
  | .boundless => "ComplexInfinity"
  | .manyDigits => "Exceeds the limit (4300 digits) for integer string conversion; "
    ++ "use sys.set_int_max_str_digits() to increase the limit"
  | .noWord function => "loop of ufunc does not support argument 0 of type int "
    ++ "which has no callable " ++ function ++ " method"
  | .hugePower => "(34, 'Numerical result out of range')"
  | .zeroPower => "0.0 cannot be raised to a negative power"

def fault : Mishap → Fault
  | .undefinedCell | .negativeCount _ | .fewCoordinates _ | .manyCoordinates | .notANumber _
  | .manyDigits => .badValue
  | .infiniteCell | .hugeInteger | .hugeQuotient | .hugePower => .tooLarge
  | .noWidth | .zeroPower => .zeroDivisor
  | .notAPoint _ | .notComparable _ | .noWord _ => .wrongKind
  | .noCell => .outOfBounds
  | .boundless => .missingKey

end Mishap

inductive Failure where
  | refused (r : Refusal)
  | mishap (m : Mishap)

end AlgebraDesk.Plot
