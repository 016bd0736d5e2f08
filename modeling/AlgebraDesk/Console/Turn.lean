import AlgebraDesk.Console.Desk
import AlgebraDesk.Console.Entry
import AlgebraDesk.Console.Help

/-!
# Turns

The console takes one entry after the other.  It writes the prompts of the entry and the answer to
it, and goes on with the desk that the entry leaves; a fault ends the run.

* `Turn`      what is written for an entry, the desk after it, and what else it causes;
* `reply`     the answer to an entry;
* `turn`      the same with the prompts;
* `run`       the turns of a list of entries;
* `greeting`, `Ending.text`  what is written before and after them.
-/

namespace AlgebraDesk.Console

/-- What the console writes for an entry, and the desk after it. -/
structure Turn where
  printed : Printout
  desk : Desk
  requests : List Backend.Request := []
  notes : List Log.Note := []

def turnOfOutcome (s : Setting) (o : Outcome) : Turn :=
  { printed := o.print s, desk := o.desk, requests := o.requests, notes := o.notes }

/-- What is written in answer to an entry. -/
def reply (s : Setting) (d : Desk) : Entry → Turn
  | .blank => { printed := .empty, desk := d }
  | .help => { printed := .lines helpLines, desk := d }
  | .command c => turnOfOutcome s (d.perform s c)
  | .system first second => turnOfOutcome s (d.perform s (.ofSystem first second))
  | .unfinished _ => { printed := .lines ["", "[Interrupted]"], desk := d }

/-- The prompts of an entry and the answer to it. -/
def turn (s : Setting) (d : Desk) (e : Entry) : Turn :=
  let t := reply s d e
  { t with printed := ⟨e.prompts, none⟩ ++ t.printed }

def run (s : Setting) (d : Desk) : List Entry → List Turn
  | [] => []
  | e :: es =>
    let t := turn s d e
    if t.printed.fault?.isSome then [t] else t :: run s t.desk es

/-! ## from greeting to farewell -/

def greeting : String := "MathExplorer. Type 'help' for commands, 'quit' to exit.\n"

def Ending.text : Ending → String
  | .quit => prompt ++ "Goodbye.\n"
  | .noMoreLines => prompt ++ "\nGoodbye.\n"

end AlgebraDesk.Console
