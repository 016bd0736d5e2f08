import AlgebraDesk.Plot.Rule

/-!
# Sampling a curve

A curve is evaluated at points evenly spread over a range, the last of which is the end of the range
exactly.  One point alone is the start of the range.

* `Range`     the ends and the number of points;
* `positions` the points;
* `samples`   the points with the values there.
-/

namespace AlgebraDesk.Plot

structure Range where
  start : Number := .real (-10)
  stop : Number := .real 10
  points : Int := 400

def countReal (n : Nat) : Float := (Double.ofInt? n).getD 0

/-- The point at an index, for `gaps` gaps between points. -/
def position (start stop : Float) (gaps i : Nat) : Float :=
  let width := stop - start
  let step := width / countReal gaps
  if gaps = 0 then countReal i * width + start
  else if i = gaps then stop
  else if step == 0 then countReal i / countReal gaps * width + start
  else countReal i * step + start

def positions (start stop : Float) (count : Nat) : List Float :=
  (List.range count).map (position start stop (count - 1))

def toReal (n : Number) : Except Failure Float := n.toReal.mapError fun _ => .mishap .hugeInteger

/-- The term must be one that can be written down; then the points are spread, and the constants in
the term are worked out. -/
def samples (t : Symbolic.Term) (r : Range) : Except Failure (List (Float × Float)) :=
  if !r.start.lt r.stop then .error (.refused .invalidRange)
  else match obstacle? t with
    | some m => .error (.mishap m)
    | none =>
      if r.points < 0 then .error (.mishap (.negativeCount r.points))
      else do
        let xs := positions (← toReal r.start) (← toReal r.stop) r.points.toNat
        let rule ← (Rule.ofTerm t).mapError .mishap
        return xs.map fun x => (x, rule.realAt x)

end AlgebraDesk.Plot
