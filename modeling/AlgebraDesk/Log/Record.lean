import AlgebraDesk.Log.Template
import AlgebraDesk.Log.Threshold
import AlgebraDesk.Log.Timestamp

/-!
# Log records

A record is a note as it is written to the log: the moment, the level, the part that speaks, the
message, and further fields sorted by their names.  When an error belongs to it, its kind and text
follow on a line of their own.

* `extrasText`   the further fields;
* `headText`     level, part, message and further fields;
* `Note.line`    a note as a line without its moment;
* `Record`       a record, with its fields as they come from outside;
* `Record.text`  the whole record.
-/

namespace AlgebraDesk.Log

def sortedExtras (extras : List (String × Value)) : List (String × Value) :=
  extras.mergeSort fun e f => !(f.1 < e.1)

def extrasText (extras : List (String × Value)) : String :=
  String.join ((sortedExtras extras).map fun e => " " ++ e.1 ++ "=" ++ e.2.shown)

def headText (level part message : String) (extras : List (String × Value)) : String :=
  "[" ++ level ++ "] " ++ part ++ ": " ++ message ++ extrasText extras

def Note.line (n : Note) : String :=
  headText n.level.name (rootName ++ "." ++ n.part) n.message n.extras

/-- An error that a record tells about. -/
structure Trouble where
  kind : String
  text : String

/-- Errors about a missing key show the key quoted. -/
def Trouble.line (t : Trouble) : String :=
  let text := if t.kind == "KeyError" then Text.quoted t.text else t.text
  if text.isEmpty then t.kind else t.kind ++ ": " ++ text

structure Record where
  created : Value := .real 0.0
  level : Value := .text "INFO"
  part : Value := .text "mathexplorer.x"
  message : Value := .text ""
  args : List Value := []
  extras : List (String × Value) := []
  trouble? : Option Trouble := none

namespace Record

/-- Fields that every record has, and that are not further ones. -/
def ownFields : List String :=
  ["name", "msg", "args", "levelname", "levelno", "pathname", "filename", "module", "exc_info",
   "exc_text", "stack_info", "lineno", "funcName", "created", "msecs", "relativeCreated", "thread",
   "threadName", "processName", "process", "message", "asctime"]

def isExtra (key : String) : Bool := !ownFields.contains key && key.toList.head? != some '_'

def ofFields (fields : List (String × Value)) (trouble? : Option Trouble) : Record :=
  let usual : Record := {}
  { created := (Value.lookup? "created" fields).getD usual.created
    level := (Value.lookup? "levelname" fields).getD usual.level
    part := (Value.lookup? "name" fields).getD usual.part
    message := (Value.lookup? "msg" fields).getD usual.message
    args := match Value.lookup? "args" fields with
      | some (.list args) => args
      | _ => []
    extras := fields.filter fun f => isExtra f.1
    trouble? }

/-- A message without arguments is no template. -/
def messageText (r : Record) : Except Fault String :=
  if r.args.isEmpty then .ok r.message.shown else Template.fill r.message.shown r.args

def text (r : Record) : Except Fault String := do
  let moment ← timestamp r.created
  let head := headText r.level.shown r.part.shown (← r.messageText) r.extras
  return moment ++ " " ++ head ++ ((r.trouble?.map fun t => "\n" ++ t.line).getD "")

end Record

end AlgebraDesk.Log
