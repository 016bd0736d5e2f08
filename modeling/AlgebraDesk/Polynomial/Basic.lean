/-!
# Polynomials of degree at most two

* `Polynomial`  the coefficients of `a*x^2 + b*x + c`;
* `sub`         coefficientwise difference: what is left of an equation when its right side is
                brought over;
* `isLinear`    no square term.
-/

namespace AlgebraDesk

structure Polynomial where
  a : Float := 0
  b : Float := 0
  c : Float := 0

namespace Polynomial

def zero : Polynomial := {}

def sub (p q : Polynomial) : Polynomial := ⟨p.a - q.a, p.b - q.b, p.c - q.c⟩

def isLinear (p : Polynomial) : Bool := p.a == 0

def isFinite (p : Polynomial) : Bool := p.a.isFinite && p.b.isFinite && p.c.isFinite

end Polynomial

end AlgebraDesk
