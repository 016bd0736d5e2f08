import AlgebraDesk.Program

/-!
# The executable

Reads the arguments and the typed lines, and writes what the program says.  There is no connection
to a backend, so every request finds no reply; chance is that of the system.
-/

namespace AlgebraDesk

open Console (Desk Entry Setting)

/-- Where the log goes besides the standard error stream. -/
def logFile? (args : List String) : Option String :=
  match CommandLine.Options.read args with
  | .ok o => o.logFile?
  | .error _ => none

def writeNotes (file? : Option IO.FS.Handle) (threshold : Nat) (notes : List Log.Note) :
    IO Unit :=
  (Log.kept threshold notes).forM fun n => do
    (← IO.getStderr).putStrLn n.line
    match file? with
    | some file => file.putStrLn n.line
    | none => pure ()

def readLine? : IO (Option (List Char)) := do
  let line ← (← IO.getStdin).getLine
  return if line.isEmpty then none else (Console.linesOf line).head?

def say (s : String) : IO Unit := do
  let out ← IO.getStdout
  out.putStr s
  out.flush

/-- The two lines of a system, or how many were asked for before the lines ended. -/
def readSystem : IO Entry := do
  say Console.firstPrompt
  match ← readLine? with
  | none => return .unfinished 1
  | some first =>
    say Console.secondPrompt
    match ← readLine? with
    | none => return .unfinished 2
    | some second => return .system first second

/-- The next entry; none when the user quits or the lines end, after the farewell. -/
def readEntry : IO (Option Entry) := do
  say Console.prompt
  match ← readLine? with
  | none => say "\nGoodbye.\n"; return none
  | some line =>
    match Console.Line.read line with
    | .quit => say "Goodbye.\n"; return none
    | .system => return some (← readSystem)
    | .blank => return some .blank
    | .help => return some .help
    | .command c => return some (.command c)

/-- A number from 0 to 1 and an index, enough for one challenge. -/
def chance : IO (List Number) := do
  let number ← IO.rand 0 999
  let index ← IO.rand 0 999
  return [.real (number.toFloat / 1000), .int index]

def faultStatus : UInt32 := 1

def finish (p : Printout) (status : UInt32) : IO UInt32 := do
  say p.text
  match p.fault? with
  | none => return status
  | some f =>
    (← IO.getStderr).putStrLn ("The program cannot go on: " ++ reprStr f)
    return faultStatus

partial def converse (file? : Option IO.FS.Handle) (threshold : Nat) (s : Setting) (d : Desk) :
    IO UInt32 := do
  match ← readEntry with
  | none => return 0
  | some e =>
    let t := Console.reply s { d with draws := ← chance } e
    writeNotes file? threshold t.notes
    if t.printed.fault?.isSome then finish t.printed faultStatus
    else
      say t.printed.text
      converse file? threshold s t.desk

def openLog? (args : List String) : IO (Option IO.FS.Handle) := do
  match logFile? args with
  | some path => return some (← IO.FS.Handle.mk path .append)
  | none => return none

def runProgram (args : List String) : IO UInt32 := do
  let file? ← openLog? args
  match Program.plan {} args with
  | (.finished t, threshold) =>
    writeNotes file? threshold t.notes
    finish t.printed t.status.toUInt32
  | (.console s, threshold) =>
    say Console.greeting
    converse file? threshold s {}

end AlgebraDesk

def main (args : List String) : IO UInt32 := AlgebraDesk.runProgram args
