import AlgebraDesk.Console.Command

/-!
# Entries

What is typed at the console is read as entries, each with the lines that belong to it; how a line
is read never depends on what the entries before it did.  The entries end where the user quits or
where the lines end, which may be in the middle of a system.

* `Entry`     an entry with its own lines;
* `Ending`    how the entries end;
* `Script`, `Script.read`  the entries of the typed lines;
* `prompts`   what is shown while an entry is typed.
-/

namespace AlgebraDesk.Console

inductive Entry where
  | blank
  | help
  | command (c : Command)
  | system (first second : List Char)
  /-- a system whose lines end; `asked` of them were asked for -/
  | unfinished (asked : Nat)
  deriving DecidableEq, Repr

inductive Ending where
  | quit
  | noMoreLines
  deriving DecidableEq, Repr

structure Script where
  entries : List Entry
  ending : Ending

namespace Script

def cons (e : Entry) (s : Script) : Script := { s with entries := e :: s.entries }

def read (lines : List (List Char)) : Script :=
  match lines with
  | [] => ⟨[], .noMoreLines⟩
  | line :: rest =>
    match Line.read line with
    | .quit => ⟨[], .quit⟩
    | .blank => cons .blank (read rest)
    | .help => cons .help (read rest)
    | .command c => cons (.command c) (read rest)
    | .system =>
      match rest with
      | [] => ⟨[.unfinished 1], .noMoreLines⟩
      | [_] => ⟨[.unfinished 2], .noMoreLines⟩
      | first :: second :: rest => cons (.system first second) (read rest)

end Script

/-! ## prompts -/

def prompt : String := ">>> "

def firstPrompt : String := "  1> "

def secondPrompt : String := "  2> "

def Entry.prompts : Entry → String
  | .system .. => prompt ++ firstPrompt ++ secondPrompt
  | .unfinished asked => prompt ++ firstPrompt ++ (if 1 < asked then secondPrompt else "")
  | _ => prompt

/-- The lines of a text; a line feed at its end does not begin another one. -/
def linesOf (text : String) : List (List Char) :=
  let pieces := Text.pieces (· == '\n') text.toList
  match pieces.getLast? with
  | some [] => pieces.dropLast
  | _ => pieces

end AlgebraDesk.Console
