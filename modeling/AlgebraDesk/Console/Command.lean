import AlgebraDesk.Calculator.Scan
import AlgebraDesk.Text.Blank
import AlgebraDesk.Text.Case

/-!
# Commands of the console

A line of the console begins with the word of a command, in any letter case, and a space; what
follows is the argument.  A line that begins with no such word is arithmetic when the calculator
knows all its characters, and is analyzed otherwise.

* `Command`          the commands with their arguments, still as typed;
* `Command.named?`   the command for a word and an argument;
* `Command.bare`     the command for a line without a command word;
* `Line`, `Line.read`  what a typed line is; `system` asks for two more lines.
-/

namespace AlgebraDesk.Console

inductive Command where
  | evaluate (text : String)
  | analyze (text : String)
  | classify (text : String)
  | solve (coefficients : String)
  | generate (count : String)
  | next
  | play
  | explain
  | challenge
  | answer (text : String)
  | plot (text : String)
  | models
  | predict (features : String)
  deriving DecidableEq, Repr

namespace Command

/-- The word is in lower case. -/
def named? (word : String) (argument : String) : Option Command :=
  match word with
  | "calc" => some (.evaluate argument)
  | "analyze" => some (.analyze argument)
  | "classify" => some (.classify argument)
  | "quad" => some (.solve argument)
  | "fib" => some (.generate argument)
  | "next" => some .next
  | "play" => some .play
  | "explain" => some .explain
  | "challenge" => some .challenge
  | "answer" => some (.answer argument)
  | "plot" => some (.plot argument)
  | "models" => some .models
  | "predict" => some (.predict argument)
  | _ => none

def bare (line : List Char) : Command :=
  if Calculator.isArithmetic line then .evaluate (String.ofList line)
  else .analyze (String.ofList line)

/-- The two lines of a system are analyzed as one text. -/
def ofSystem (first second : List Char) : Command :=
  .analyze (String.ofList (Text.trim first ++ '\n' :: Text.trim second))

end Command

/-! ## lines -/

inductive Line where
  | blank
  | quit
  | help
  | system
  | command (c : Command)
  deriving DecidableEq, Repr

/-- The text before the first space, and the trimmed text after it. -/
def splitWord (line : List Char) : List Char × List Char :=
  (line.takeWhile (· != ' '), Text.trim ((line.dropWhile (· != ' ')).drop 1))

def wordOf (line : List Char) : String := Text.lowerText (String.ofList (splitWord line).1)

def argumentOf (line : List Char) : String := String.ofList (splitWord line).2

def quitWords : List String := ["quit", "exit"]

/-- A line that is trimmed. -/
def Line.ofTrimmed (line : List Char) : Line :=
  let whole := Text.lowerText (String.ofList line)
  if line.isEmpty then .blank
  else if quitWords.contains whole then .quit
  else if whole == "help" then .help
  else if wordOf line == "system" then .system
  else .command ((Command.named? (wordOf line) (argumentOf line)).getD (.bare line))

def Line.read (line : List Char) : Line := .ofTrimmed (Text.trim line)

end AlgebraDesk.Console
