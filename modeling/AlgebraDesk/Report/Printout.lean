import AlgebraDesk.Fault

/-!
# Printouts

Text is printed line by line, and a fault ends the printing: what was printed before it stays.

* `Printout`         the text, and the fault that ended it, if one did;
* `Printout.append`  one after the other; nothing is printed after a fault;
* `ofSteps`          lines that are found out one after the other.
-/

namespace AlgebraDesk

structure Printout where
  text : String
  fault? : Option Fault := none

namespace Printout

def empty : Printout := ⟨"", none⟩

def line (s : String) : Printout := ⟨s ++ "\n", none⟩

def lines (ss : List String) : Printout := ⟨String.join (ss.map (· ++ "\n")), none⟩

def append (p q : Printout) : Printout :=
  match p.fault? with
  | some _ => p
  | none => ⟨p.text ++ q.text, q.fault?⟩

instance : Append Printout := ⟨append⟩

def ofStep : Except Fault (List String) → Printout
  | .ok ss => lines ss
  | .error f => ⟨"", some f⟩

def ofSteps (steps : List (Except Fault (List String))) : Printout :=
  steps.foldl (fun p step => p ++ ofStep step) empty

theorem append_of_fault {p : Printout} {f : Fault} (h : p.fault? = some f) (q : Printout) :
    p ++ q = p := by
  change append p q = p
  simp [append, h]

end Printout

end AlgebraDesk
