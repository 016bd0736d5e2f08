import AlgebraDesk.Value.Number

/-!
# The Fibonacci sequence

* `termsFrom`, `terms`  the sequence, from any two terms and from 0 and 1;
* `slice`               the first terms, where a negative count leaves terms off the pair 0, 1;
* `ratios`              each term over the one before it, from the third term on; a term that is
                        zero has no ratio over it;
* `Count.read?`         the number of terms that a value asks for;
* `generate`            the terms asked for, with their ratios.
-/

namespace AlgebraDesk.Fibonacci

/-- The first terms of the sequence that starts with `a`, `b`. -/
def termsFrom (a b : Nat) : Nat → List Nat
  | 0 => []
  | n + 1 => a :: termsFrom b (a + b) n

def terms (n : Nat) : List Nat := termsFrom 0 1 n

theorem termsFrom_succ (a b n : Nat) : termsFrom a b (n + 1) = a :: termsFrom b (a + b) n := rfl

@[simp] theorem length_termsFrom (a b n : Nat) : (termsFrom a b n).length = n := by
  induction n generalizing a b with
  | zero => rfl
  | succ n ih => simp [termsFrom_succ, ih]

def slice (n : Int) : List Nat :=
  if 0 ≤ n then terms n.toNat else (terms 2).take (n + 2).toNat

/-! ## ratios -/

/-- A value that counts as zero in a quotient. -/
def isZero (v : Value) : Bool := (v.toNumber?.map Number.isZero).getD false

def quotient (v w : Value) : Except Fault Float := do
  let m ← v.asNumber
  let n ← w.asNumber
  m.divide n

def ratiosFrom (previous : Value) : List Value → Except Fault (List Float)
  | [] => .ok []
  | v :: vs =>
    if isZero previous then ratiosFrom v vs
    else do
      let q ← quotient v previous
      return q :: (← ratiosFrom v vs)

def ratios : List Value → Except Fault (List Float)
  | _ :: v :: vs => ratiosFrom v vs
  | _ => .ok []

/-! ## asking for terms -/

def minTerms : Int := 2

def maxTerms : Int := 25

def defaultTerms : Int := 12

inductive Error where
  | invalidCount
  deriving DecidableEq, Repr

namespace Error

def message : Error → String
  | .invalidCount => "Enter a valid number of terms between " ++ toString minTerms ++ " and "
      ++ toString maxTerms ++ "."

def code : Error → String
  | .invalidCount => "INVALID_TERM_COUNT"

end Error

/-- A count is a number with an integer value in range; a text is not a number. -/
def count? (v : Value) : Option Nat := do
  let n ← v.readInteger.toOption
  let m ← v.toNumber?
  if m.eq (.int n) && minTerms ≤ n && n ≤ maxTerms then some n.toNat else none

def values (ns : List Nat) : List Value := ns.map fun n : Nat => .int n

structure Run where
  terms : List Nat
  ratios : List Float

def Run.toValue (r : Run) : Value :=
  .object [("terms", .list (values r.terms)), ("ratios", .reals r.ratios)]

inductive Failure where
  | refused (e : Error)
  | fault (f : Fault)
  deriving DecidableEq, Repr

def generate (v : Value) : Except Failure Run :=
  match count? v with
  | none => .error (.refused .invalidCount)
  | some n => match ratios (values (terms n)) with
    | .ok rs => .ok ⟨terms n, rs⟩
    | .error f => .error (.fault f)

end AlgebraDesk.Fibonacci
