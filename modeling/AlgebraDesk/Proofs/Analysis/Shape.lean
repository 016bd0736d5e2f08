import AlgebraDesk.Analysis.Basic
import AlgebraDesk.Value.Access

/-!
# The shape of a result

Seen from outside all results have the same keys in the same order.  The shape is laid out once with
empty parts, and each kind of result writes its own parts over them: a whole part, or one field
inside a part, which must be there.

* `blank`, `putInside`, `fill`   the empty shape and what is written over it;
* `Checked.toValue`              the result put together in this way, which can fault;
* `HasShape`                     the keys, and what stands under each;
* `toValue_eq`, `hasShape_toValue`   it does not fault, and every result has the shape.
-/

namespace AlgebraDesk.Analysis

/-! ## parts written over an empty shape -/

namespace Checked

def graphValue (g : Graph) : Value :=
  .object [("expression", .text g.expression), ("highlight_points", pointsValue g.highlights)]

def featuresValue (f : Features) : Value :=
  .object [("domain", .text f.domain), ("range", .text f.range),
    ("derivative", .text f.derivative), ("symmetry", .text f.symmetry)]

def keyPointsValue (k : KeyPoints) : Value :=
  .object [("roots", pointsValue k.roots),
    ("vertex", (k.vertex?.map Point.toValue).getD (.list [])),
    ("intersections", pointsValue k.intersections),
    ("critical_points", pointsValue k.critical)]

/-- What every result has, and empty parts. -/
def blank (r : Analysis) : List (String × Value) :=
  [("type", .text r.category.label),
   ("analysis", featuresValue {}),
   ("key_points", keyPointsValue {}),
   ("graph", graphValue {}),
   ("explanation_steps", .text r.steps),
   ("chat_summary", .text r.summary)]

/-- Sets a field of an object that is itself a field. -/
def putInside (key inner : String) (v : Value) (fields : List (String × Value)) :
    Except Fault (List (String × Value)) := do
  match ← Value.entry (.object fields) key with
  | .object part => return Value.put key (.object (Value.put inner v part)) fields
  | _ => .error .wrongKind

/-- A sketch and a curve have a whole graph; the points of a system go to two parts. -/
def fill (r : Analysis) (fields : List (String × Value)) : Except Fault (List (String × Value)) :=
  match r with
  | .remark .. => return fields
  | .sketch _ _ _ g => return Value.put "graph" (graphValue g) fields
  | .curve c =>
    return Value.put "key_points" (keyPointsValue c.keyPoints)
      (Value.put "analysis" (featuresValue c.features)
        (Value.put "graph" (graphValue c.graph) fields))
  | .system _ _ points => do
    putInside "graph" "highlight_points" (pointsValue points)
      (← putInside "key_points" "intersections" (pointsValue points) fields)
  | .derivative _ _ g _ d =>
    putInside "analysis" "derivative" (.text d) (Value.put "graph" (graphValue g) fields)

def toValue (r : Analysis) : Except Fault Value := do return .object (← fill r (blank r))

/-- **Every part that is written over is there.** -/
theorem toValue_eq (r : Analysis) : toValue r = .ok r.toValue := by
  cases r <;> rfl

end Checked

/-! ## what a result shows -/

/-- A list of points, each of which is a pair of numbers. -/
def IsPoints (v : Value) : Prop :=
  ∃ ps : List (Float × Float), v = .list (ps.map fun p => .list [.real p.1, .real p.2])

/-- Six keys, in this order, and nothing else; the four texts of the analysis, the four lists of key
points, of which the vertex is empty or one pair of numbers, and the two parts of the graph. -/
inductive HasShape (category : Category) : Value → Prop where
  | mk {domain range derivative symmetry expression steps summary : String}
    {roots vertex intersections critical highlights : Value}
    (hroots : IsPoints roots)
    (hvertex : vertex = .list [] ∨ ∃ x y, vertex = .list [.real x, .real y])
    (hintersections : IsPoints intersections)
    (hcritical : IsPoints critical)
    (hhighlights : IsPoints highlights) :
    HasShape category (.object [
      ("type", .text category.label),
      ("analysis", .object [("domain", .text domain), ("range", .text range),
        ("derivative", .text derivative), ("symmetry", .text symmetry)]),
      ("key_points", .object [("roots", roots), ("vertex", vertex),
        ("intersections", intersections), ("critical_points", critical)]),
      ("graph", .object [("expression", .text expression), ("highlight_points", highlights)]),
      ("explanation_steps", .text steps),
      ("chat_summary", .text summary)])

theorem isPoints_pointsValue (ps : List Point) : IsPoints (pointsValue ps) := by
  refine ⟨ps.map fun p => (p.x, p.y), ?_⟩
  rw [List.map_map]
  rfl

/-- **Every result has the shape**, of whichever kind it is. -/
theorem hasShape_toValue (r : Analysis) : HasShape r.category r.toValue := by
  refine .mk (isPoints_pointsValue _) ?_ (isPoints_pointsValue _) (isPoints_pointsValue _)
    (isPoints_pointsValue _)
  cases r.keyPoints.vertex? with
  | none => exact .inl rfl
  | some p => exact .inr ⟨p.x, p.y, rfl⟩

end AlgebraDesk.Analysis
