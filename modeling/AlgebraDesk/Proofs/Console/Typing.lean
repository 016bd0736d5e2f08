import AlgebraDesk.Console.Entry

/-!
# Typed commands

What is typed is a row of commands, each with the lines that belong to it: a system has two lines
more, every other command is one line.  After the commands come the line that quits, or a system
whose lines end, or nothing; what follows a line that quits is not read.

* `Takes`, `Typed`   the lines of a command, and a command with its lines;
* `typedLines`       the lines of commands one after the other;
* `read_typedLines`  they are read as these commands, whatever follows;
* `IsEnd`, `exists_typed`   every row of lines is commands and an end.
-/

namespace AlgebraDesk.Console

/-- What a line and the lines after it are read as. -/
inductive Takes : List Char → List (List Char) → Entry → Prop
  | blank {line : List Char} (h : Line.read line = .blank) : Takes line [] .blank
  | help {line : List Char} (h : Line.read line = .help) : Takes line [] .help
  | command {line : List Char} {c : Command} (h : Line.read line = .command c) :
    Takes line [] (.command c)
  | system {line first second : List Char} (h : Line.read line = .system) :
    Takes line [first, second] (.system first second)

/-- A command with its own lines. -/
structure Typed where
  line : List Char
  arguments : List (List Char)
  entry : Entry
  takes : Takes line arguments entry

def Typed.lines (t : Typed) : List (List Char) := t.line :: t.arguments

def typedLines (ts : List Typed) : List (List Char) := ts.flatMap Typed.lines

/-! ## reading -/

theorem read_lines (t : Typed) (rest : List (List Char)) :
    Script.read (t.lines ++ rest) = (Script.read rest).cons t.entry := by
  obtain ⟨line, arguments, entry, htakes⟩ := t
  show Script.read (line :: (arguments ++ rest)) = _
  cases htakes with
  | blank h | help h | command h | system h =>
    rw [Script.read.eq_def]
    simp only [h]
    rfl

/-- **Typed commands are read as these commands**, whatever follows them. -/
theorem read_typedLines (ts : List Typed) (rest : List (List Char)) :
    Script.read (typedLines ts ++ rest)
      = ⟨ts.map Typed.entry ++ (Script.read rest).entries, (Script.read rest).ending⟩ := by
  induction ts with
  | nil => rfl
  | cons t ts ih =>
    have e : typedLines (t :: ts) ++ rest = t.lines ++ (typedLines ts ++ rest) :=
      List.append_assoc t.lines (typedLines ts) rest
    rw [e, read_lines, ih]
    rfl

/-- Where no further command begins. -/
inductive IsEnd : List (List Char) → Prop
  | nothing : IsEnd []
  | quit {line : List Char} (h : Line.read line = .quit) (rest : List (List Char)) :
    IsEnd (line :: rest)
  | unfinished {line : List Char} (h : Line.read line = .system) {rest : List (List Char)}
    (hrest : rest.length < 2) : IsEnd (line :: rest)

/-- A command with its own lines, before commands and an end. -/
theorem exists_typed_cons (t : Typed) {more : List (List Char)}
    (h : ∃ ts rest, more = typedLines ts ++ rest ∧ IsEnd rest) :
    ∃ ts rest, t.lines ++ more = typedLines ts ++ rest ∧ IsEnd rest := by
  obtain ⟨ts, rest, rfl, hend⟩ := h
  exact ⟨t :: ts, rest, (List.append_assoc t.lines (typedLines ts) rest).symm, hend⟩

/-- **Every row of lines is commands with their own lines, and an end.** -/
theorem exists_typed (lines : List (List Char)) :
    ∃ ts rest, lines = typedLines ts ++ rest ∧ IsEnd rest := by
  induction lines using Script.read.induct with
  | case1 => exact ⟨[], [], rfl, .nothing⟩
  | case2 line rest h => exact ⟨[], line :: rest, rfl, .quit h rest⟩
  | case3 line rest h ih => exact exists_typed_cons ⟨line, [], .blank, .blank h⟩ ih
  | case4 line rest h ih => exact exists_typed_cons ⟨line, [], .help, .help h⟩ ih
  | case5 line rest c h ih => exact exists_typed_cons ⟨line, [], .command c, .command h⟩ ih
  | case6 line h => exact ⟨[], [line], rfl, .unfinished h Nat.two_pos⟩
  | case7 line h first => exact ⟨[], [line, first], rfl, .unfinished h Nat.one_lt_two⟩
  | case8 line h first second rest ih =>
    exact exists_typed_cons ⟨line, [first, second], .system first second, .system h⟩ ih

end AlgebraDesk.Console
