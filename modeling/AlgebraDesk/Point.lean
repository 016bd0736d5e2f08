import AlgebraDesk.Decimal.Display
import AlgebraDesk.Value.Basic

/-!
# Points

A point of the plane, shown as its two coordinates in parentheses.
-/

namespace AlgebraDesk

structure Point where
  x : Float
  y : Float

namespace Point

def display (places : Int) (p : Point) : String :=
  "(" ++ Decimal.display places p.x ++ ", " ++ Decimal.display places p.y ++ ")"

def toValue (p : Point) : Value := Value.reals [p.x, p.y]

end Point

end AlgebraDesk
