/-!
# Faults

A fault is a failure that no rule of the desk turns into a message: a value of the wrong kind was
used, or a number left its range.  Operations on values that come from outside (a request, a reply
of the backend) say which fault stops them.
-/

namespace AlgebraDesk

inductive Fault where
  /-- a text does not read as a number, or a number has no place in the result -/
  | badValue
  /-- the operation is not defined for a value of this kind -/
  | wrongKind
  /-- an integer or an infinity does not fit where a finite number is needed -/
  | tooLarge
  /-- a position outside a sequence -/
  | outOfBounds
  /-- a key that an object does not have -/
  | missingKey
  /-- a member that values of this kind do not have -/
  | missingMember
  /-- division by zero -/
  | zeroDivisor
  deriving DecidableEq, Repr

end AlgebraDesk
