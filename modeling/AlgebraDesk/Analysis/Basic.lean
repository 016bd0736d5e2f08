import AlgebraDesk.Category
import AlgebraDesk.Point
import AlgebraDesk.Polynomial.Basic

/-!
# Results of an analysis

Every analysis has a category, the steps that explain it and a summary.  What else it has depends on
what was found: something to draw, a full account of a curve, the common point of a system, or the
target of a derivative.  Seen from outside they all have the same shape, with empty parts where
nothing was found.

* `Graph`, `Features`, `KeyPoints`  the parts;
* `Curve`     the account of a line or a parabola;
* `Analysis`  the kinds of results;
* `graph`, `features`, `keyPoints`  each part of any result;
* `toValue`   the common shape.
-/

namespace AlgebraDesk

/-- An expression to draw, empty when there is none, and the points to mark on it. -/
structure Graph where
  expression : String := ""
  highlights : List Point := []

structure Features where
  domain : String := ""
  range : String := ""
  derivative : String := ""
  symmetry : String := ""

structure KeyPoints where
  roots : List Point := []
  vertex? : Option Point := none
  intersections : List Point := []
  critical : List Point := []

structure Curve where
  category : Category
  steps : String
  summary : String
  graph : Graph
  polynomial : Polynomial
  discriminant? : Option Float
  features : Features
  keyPoints : KeyPoints

inductive Analysis where
  | remark (category : Category) (steps summary : String)
  | sketch (category : Category) (steps summary : String) (graph : Graph)
  | curve (c : Curve)
  | system (steps summary : String) (intersections : List Point)
  | derivative (steps summary : String) (graph : Graph) (target derivative : String)

namespace Analysis

/-! ## the parts of a result -/

def category : Analysis → Category
  | .remark k .. | .sketch k .. => k
  | .curve c => c.category
  | .system .. => .system
  | .derivative .. => .derivative

def steps : Analysis → String
  | .remark _ s _ | .sketch _ s _ _ | .system s _ _ | .derivative s _ _ _ _ => s
  | .curve c => c.steps

def summary : Analysis → String
  | .remark _ _ s | .sketch _ _ s _ | .system _ s _ | .derivative _ s _ _ _ => s
  | .curve c => c.summary

def graph : Analysis → Graph
  | .remark .. => {}
  | .sketch _ _ _ g => g
  | .curve c => c.graph
  | .system _ _ points => { highlights := points }
  | .derivative _ _ g _ _ => g

def features : Analysis → Features
  | .curve c => c.features
  | .derivative _ _ _ _ d => { derivative := d }
  | _ => {}

def keyPoints : Analysis → KeyPoints
  | .curve c => c.keyPoints
  | .system _ _ points => { intersections := points }
  | _ => {}

/-! ## the common shape -/

def pointsValue (ps : List Point) : Value := .list (ps.map Point.toValue)

def toValue (r : Analysis) : Value :=
  let f := r.features
  let k := r.keyPoints
  .object [
    ("type", .text r.category.label),
    ("analysis", .object [("domain", .text f.domain), ("range", .text f.range),
      ("derivative", .text f.derivative), ("symmetry", .text f.symmetry)]),
    ("key_points", .object [("roots", pointsValue k.roots),
      ("vertex", (k.vertex?.map Point.toValue).getD (.list [])),
      ("intersections", pointsValue k.intersections),
      ("critical_points", pointsValue k.critical)]),
    ("graph", .object [("expression", .text r.graph.expression),
      ("highlight_points", pointsValue r.graph.highlights)]),
    ("explanation_steps", .text r.steps),
    ("chat_summary", .text r.summary)]

end Analysis

end AlgebraDesk
