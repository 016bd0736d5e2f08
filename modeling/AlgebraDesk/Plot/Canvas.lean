import AlgebraDesk.Plot.Failure
import AlgebraDesk.Value.Access
import AlgebraDesk.Value.Number

/-!
# Drawing with characters

Points are drawn on a canvas of rows and columns.  The first and the last x are the outer columns,
the greatest and the least y the outer rows; a point is drawn in the cell nearest to it, a half
going to the even neighbour.  Marks cover points, points cover axes, and the axes cross in a `+`.

* `isDrawable`   the values that count: numbers of magnitude below 1e10;
* `Frame`        what the canvas spans, and its size;
* `Frame.cell`   the cell of a point;
* `Drawing`      axes, and the cells of points and marks;
* `Drawing.charAt`, `lines`  what is seen;
* `draw`         the drawing of two lists of coordinates and a list of marks.
-/

namespace AlgebraDesk.Plot

/-! ## the values that are drawn -/

def limit : Number := .real 1e10

def lowerLimit : Number := .real (-1e10)

def isDrawable (n : Number) : Bool := lowerLimit.lt n && n.lt limit

/-- A value that is drawn, as a double; none when it is not.  A value that is no number cannot be
judged. -/
def drawable? (v : Value) : Except Failure (Option Float) :=
  match v.toNumber? with
  | none => .error (.mishap (.notComparable v))
  | some n => .ok (if isDrawable n then n.toReal.toOption else none)

/-- A coordinate as a double. -/
def readCoordinate (v : Value) : Except Failure Float :=
  match v.readReal with
  | .ok x => .ok x
  | .error .badValue => .error (.mishap (.notANumber v))
  | .error .tooLarge => .error (.mishap .hugeInteger)
  | .error _ => .error (.mishap (.notAPoint v))

def least (y : Float) (ys : List Float) : Float := ys.foldl (fun m v => if v < m then v else m) y

def greatest (y : Float) (ys : List Float) : Float :=
  ys.foldl (fun m v => if m < v then v else m) y

/-! ## the frame -/

structure Frame where
  xFirst : Float
  xLast : Float
  yLeast : Float
  yGreatest : Float
  rows : Int
  columns : Int

namespace Frame

def height (f : Frame) : Float :=
  if f.yGreatest == f.yLeast then 1.0 else f.yGreatest - f.yLeast

/-- The nearest integer to a position. -/
def nearestCell (v : Float) : Except Failure Int :=
  match Double.round? v with
  | some n => .ok n
  | none => .error (.mishap (if v.isNaN then .undefinedCell else .infiniteCell))

/-- The last of `size` cells as a double. -/
def lastCell (size : Int) : Float := (Double.ofInt? (size - 1)).getD 0

/-- A position outside is moved to the border. -/
def clamp (size n : Int) : Nat := (max 0 (min (size - 1) n)).toNat

def columnOf (f : Frame) (x : Float) : Except Failure Nat :=
  let width := f.xLast - f.xFirst
  if width == 0 then .error (.mishap .noWidth)
  else do
    let n ← nearestCell ((x - f.xFirst) / width * lastCell f.columns)
    return clamp f.columns n

def rowOf (f : Frame) (y : Float) : Except Failure Nat := do
  let n ← nearestCell ((f.yGreatest - y) / f.height * lastCell f.rows)
  return clamp f.rows n

/-- row and column -/
def cell (f : Frame) (x y : Float) : Except Failure (Nat × Nat) := do
  let c ← f.columnOf x
  let r ← f.rowOf y
  return (r, c)

/-- A cell that the canvas has. -/
def drawnCell (f : Frame) (x y : Float) : Except Failure (Nat × Nat) := do
  let rc ← f.cell x y
  if f.rows ≤ 0 || f.columns ≤ 0 then .error (.mishap .noCell) else return rc

def coversX (f : Frame) (x : Number) : Bool := (Number.real f.xFirst).le x && x.le (.real f.xLast)

def coversY (f : Frame) (y : Number) : Bool :=
  (Number.real f.yLeast).le y && y.le (.real f.yGreatest)

/-! ## axes -/

def xAxis? (f : Frame) : Except Failure (Option Nat) :=
  if f.coversY (.int 0) then do
    let (r, _) ← f.cell f.xFirst 0.0
    if f.rows ≤ 0 then .error (.mishap .noCell) else return some r
  else .ok none

def yAxis? (f : Frame) : Except Failure (Option Nat) :=
  if f.coversX (.int 0) then do
    let (_, c) ← f.cell 0.0 f.yLeast
    if 0 < f.rows && f.columns ≤ 0 then .error (.mishap .noCell) else return some c
  else .ok none

end Frame

/-! ## what is drawn -/

structure Drawing where
  rows : Nat
  columns : Nat
  /-- the row of the x axis, the column of the y axis -/
  xAxis? : Option Nat
  yAxis? : Option Nat
  points : List (Nat × Nat)
  marks : List (Nat × Nat)

namespace Drawing

def axisChar (d : Drawing) (r c : Nat) : Char :=
  if d.yAxis? == some c then (if d.xAxis? == some r then '+' else '|')
  else if d.xAxis? == some r then '-' else ' '

def charAt (d : Drawing) (r c : Nat) : Char :=
  if d.marks.contains (r, c) then 'o'
  else if d.points.contains (r, c) then '*'
  else d.axisChar r c

def lines (d : Drawing) : List (List Char) :=
  (List.range d.rows).map fun r => (List.range d.columns).map fun c => d.charAt r c

def text (d : Drawing) : String := "\n".intercalate (d.lines.map String.ofList)

end Drawing

/-! ## drawing -/

/-- The cells of the points that are drawn. -/
def pointCells (f : Frame) : List (Value × Value) → Except Failure (List (Nat × Nat))
  | [] => .ok []
  | (x, y) :: rest => do
    match ← drawable? y with
    | none => pointCells f rest
    | some y =>
      let rc ← f.drawnCell (← readCoordinate x) y
      return rc :: (← pointCells f rest)

/-- A mark as its two coordinates. -/
def readMark (v : Value) : Except Failure (Value × Value) :=
  match v.elements with
  | .ok [x, y] => .ok (x, y)
  | .ok items =>
    .error (.mishap (if items.length < 2 then .fewCoordinates items.length else .manyCoordinates))
  | .error _ => .error (.mishap (.notAPoint v))

def comparable (v : Value) : Except Failure Number :=
  match v.toNumber? with
  | some n => .ok n
  | none => .error (.mishap (.notComparable v))

/-- The cell of a mark, none when the frame does not cover it. -/
def markCell? (f : Frame) (v : Value) : Except Failure (Option (Nat × Nat)) := do
  let (x, y) ← readMark v
  if f.coversX (← comparable x) then
    if f.coversY (← comparable y) then
      return some (← f.drawnCell (← readCoordinate x) (← readCoordinate y))
    else return none
  else return none

/-- The frame of two lists of coordinates. -/
def frameOf (xs ys : List Value) (rows columns : Int) : Except Failure Frame := do
  match (← ys.mapM drawable?).filterMap id with
  | [] => .error (.refused .outOfRange)
  | y :: rest =>
    match xs.head?, xs.getLast? with
    | some first, some last =>
      return ⟨← readCoordinate first, ← readCoordinate last, least y rest, greatest y rest,
        rows, columns⟩
    | _, _ => .error (.mishap .noCell)

def standardRows : Int := 20

def standardColumns : Int := 60

def draw (xs ys marks : List Value) (rows columns : Int) : Except Failure Drawing := do
  let f ← frameOf xs ys rows columns
  let xAxis? ← f.xAxis?
  let yAxis? ← f.yAxis?
  let points ← pointCells f (xs.zip ys)
  let marks ← marks.mapM (markCell? f)
  return ⟨rows.toNat, columns.toNat, xAxis?, yAxis?, points, marks.filterMap id⟩

end AlgebraDesk.Plot
