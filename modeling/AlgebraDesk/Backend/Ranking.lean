import AlgebraDesk.Value.Number

/-!
# Ranking by weight

Features are listed with the heaviest first, and features of equal weight stay in the order in which
they were given.  A weight that is not a number has no place of its own: it goes where bisection
leads it, and the rows that are in order from the start are left as they are.

* `heavier`      strict comparison of weights;
* `startLength`  how many items are in order from the start, or in the opposite order;
* `place`        where bisection puts an item among ranked ones;
* `rank`         the ranked list.
-/

namespace AlgebraDesk.Backend

variable {α : Type}

abbrev Weighted (α : Type) := α × Number

def heavier (v w : Weighted α) : Bool := w.2.lt v.2

/-! ## the start -/

/-- How many items follow `v` such that each is related to the one before it. -/
def chainLength (related : Weighted α → Weighted α → Bool) (v : Weighted α) :
    List (Weighted α) → Nat
  | [] => 0
  | w :: ws => if related v w then chainLength related w ws + 1 else 0

/-- The start of the list that is ranked, or is after it is turned around. -/
def start : List (Weighted α) → List (Weighted α)
  | [] => []
  | [v] => [v]
  | v :: w :: ws =>
    if heavier w v then
      ((v :: w :: ws).take (chainLength (fun a b => heavier b a) v (w :: ws) + 1)).reverse
    else (v :: w :: ws).take (chainLength (fun a b => !heavier b a) v (w :: ws) + 1)

/-! ## inserting -/

/-- The position between `low` and `high` behind the items that `v` is not heavier than. -/
def place (v : Weighted α) (ranked : Array (Weighted α)) (low high : Nat) : Nat :=
  if low < high then
    let middle := (low + high) / 2
    match ranked[middle]? with
    | some w => if heavier v w then place v ranked low middle else place v ranked (middle + 1) high
    | none => low
  else low
termination_by high - low
decreasing_by
  · omega
  · omega

def insert (ranked : List (Weighted α)) (v : Weighted α) : List (Weighted α) :=
  ranked.insertIdx (place v ranked.toArray 0 ranked.length) v

def rank (vs : List (Weighted α)) : List (Weighted α) :=
  let ranked := start vs
  (vs.drop ranked.length).foldl insert ranked

end AlgebraDesk.Backend
