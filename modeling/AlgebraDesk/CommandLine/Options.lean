import AlgebraDesk.CommandLine.Item
import AlgebraDesk.Decimal.Numeral
import AlgebraDesk.Log.Note
import AlgebraDesk.Report.Print

/-!
# Options of a run

The items of a command line are taken one after the other: an option takes its values from the words
right behind it, and of two options with the same name the last one counts.  Letters may share one
dash as long as only the last of them takes a value.  A word that no option takes is refused, but
only at the end, so that a request for help before it is answered.

* `Options`      what a run was asked for;
* `Options.set`  one option with its values;
* `chain`        the options behind one dash;
* `consume`, `Options.read`  the options of a command line;
* `Stop`         why there are none.
-/

namespace AlgebraDesk.CommandLine

structure Options where
  evaluate? : Option String := none
  analyze? : Option String := none
  classify? : Option String := none
  quadratic? : Option (Float × Float × Float) := none
  fib? : Option Int := none
  play : Bool := false
  plot? : Option String := none
  ascii : Bool := false
  output? : Option String := none
  modelInfo : Bool := false
  predict? : Option (Float × Float × Float) := none
  apiBase? : Option String := none
  format : Report.Format := .plain
  precision? : Option Int := none
  version : Bool := false
  level? : Option Log.Level := none
  logFile? : Option String := none
  healthCheck : Bool := false

inductive Stop where
  | help
  | refused
  deriving DecidableEq, Repr

/-! ## values -/

/-- A text that counts only when it is not empty. -/
def filledText? (s : String) : Option String := if s.isEmpty then none else some s

def readInteger (s : String) : Except Stop Int :=
  match Decimal.integer? s.toList with
  | some n => .ok n
  | none => .error .refused

def readReal (s : String) : Except Stop Float :=
  match Decimal.real? s.toList with
  | some x => .ok x
  | none => .error .refused

def readReals (x y z : String) : Except Stop (Float × Float × Float) := do
  return (← readReal x, ← readReal y, ← readReal z)

def readFormat (s : String) : Except Stop Report.Format :=
  if s == "json" then .ok .json
  else if s == "human" then .ok .plain
  else .error .refused

def levels : List Log.Level := [.debug, .info, .warning, .error]

def readLevel (s : String) : Except Stop Log.Level :=
  match levels.find? (·.name == s) with
  | some l => .ok l
  | none => .error .refused

namespace Options

/-- The number of values is that of the option. -/
def set (o : Options) (n : Name) (values : List String) : Except Stop Options :=
  match n, values with
  | .help, _ => .error .help
  | .play, _ => .ok { o with play := true }
  | .ascii, _ => .ok { o with ascii := true }
  | .modelInfo, _ => .ok { o with modelInfo := true }
  | .version, _ => .ok { o with version := true }
  | .healthCheck, _ => .ok { o with healthCheck := true }
  | .evaluate, [s] => .ok { o with evaluate? := some s }
  | .analyze, [s] => .ok { o with analyze? := some s }
  | .classify, [s] => .ok { o with classify? := some s }
  | .plot, [s] => .ok { o with plot? := some s }
  | .output, [s] => .ok { o with output? := filledText? s }
  | .apiBase, [s] => .ok { o with apiBase? := filledText? s }
  | .logFile, [s] => .ok { o with logFile? := filledText? s }
  | .fib, [s] => do return { o with fib? := some (← readInteger s) }
  | .precision, [s] => do return { o with precision? := some (← readInteger s) }
  | .format, [s] => do return { o with format := ← readFormat s }
  | .logLevel, [s] => do return { o with level? := some (← readLevel s) }
  | .quadratic, [x, y, z] => do return { o with quadratic? := some (← readReals x y z) }
  | .predict, [x, y, z] => do return { o with predict? := some (← readReals x y z) }
  | _, _ => .error .refused

def setAll (o : Options) : List (Name × List String) → Except Stop Options
  | [] => .ok o
  | (n, values) :: rest => do setAll (← o.set n values) rest

end Options

/-! ## letters behind one dash -/

/-- How a chain of letters ends. -/
inductive Tail where
  /-- with an option that takes its values from the words behind -/
  | asks (n : Name)
  | carries (n : Name) (value : List Char)
  /-- with a letter that names no option -/
  | unknown

/-- The options without values that share a dash with what is attached to the first of them, and
how the chain ends; none when it cannot be read. -/
def chain (n : Name) (isAssigned : Bool) : List Char → Option (List Name × Tail)
  | [] => if n.arity = 1 then some ([], .carries n []) else none
  | c :: rest =>
    if n.arity = 1 then some ([], .carries n (c :: rest))
    else if n.arity ≠ 0 || isAssigned || c == '-' then none
    else match Name.ofLetter? c with
      | none => some ([n], .unknown)
      | some m => match rest with
        | [] => some ([n], .asks m)
        | '=' :: value => (chain m true value).map fun r => (n :: r.1, r.2)
        | d :: value => (chain m false (d :: value)).map fun r => (n :: r.1, r.2)

/-! ## consuming the items -/

/-- The words at the start, as many as asked for, and the items behind them. -/
def takeWords : Nat → List Item → Option (List String × List Item)
  | 0, items => some ([], items)
  | n + 1, .word s :: items => (takeWords n items).map fun r => (s :: r.1, r.2)
  | _ + 1, _ => none

theorem length_takeWords {n : Nat} {items rest : List Item} {ws : List String}
    (h : takeWords n items = some (ws, rest)) : rest.length ≤ items.length := by
  induction n generalizing items ws with
  | zero =>
    simp only [takeWords, Option.some.injEq, Prod.mk.injEq] at h
    obtain ⟨_, rfl⟩ := h
    exact Nat.le_refl _
  | succ n ih =>
    match items with
    | .word s :: items =>
      simp only [takeWords, Option.map_eq_some_iff] at h
      obtain ⟨r, hr, e⟩ := h
      simp only [Prod.mk.injEq] at e
      have := ih (hr.trans (by rw [← e.2]))
      simp only [List.length_cons]
      omega
    | [] => simp [takeWords] at h
    | .stop :: _ => simp [takeWords] at h
    | .unknown :: _ => simp [takeWords] at h
    | .option .. :: _ => simp [takeWords] at h

/-- What an option item asks for: options with values, whether a letter was unknown, and the items
behind the values. -/
structure Taken (items : List Item) where
  options : List (Name × List String)
  hasUnknown : Bool
  rest : List Item
  length_rest : rest.length ≤ items.length

/-- An option that takes its values from the words behind it, after options without values. -/
def takeBehind (flags : List Name) (n : Name) (items : List Item) : Option (Taken items) :=
  match h : takeWords n.arity items with
  | some (values, rest) =>
    some ⟨flags.map (·, []) ++ [(n, values)], false, rest, length_takeWords h⟩
  | none => none

def takeChain (n : Name) (a : Attached) (items : List Item) : Option (Taken items) :=
  match chain n a.isAssigned a.text with
  | none => none
  | some (flags, .asks m) => takeBehind flags m items
  | some (flags, .carries m value) =>
    some ⟨flags.map (·, []) ++ [(m, [String.ofList value])], false, items, Nat.le_refl _⟩
  | some (flags, .unknown) => some ⟨flags.map (·, []), true, items, Nat.le_refl _⟩

/-- A value can be attached to a word only if the option takes exactly one. -/
def takeAssigned (n : Name) (a : Attached) (items : List Item) : Option (Taken items) :=
  if n.arity = 1 then some ⟨[(n, [String.ofList a.text])], false, items, Nat.le_refl _⟩ else none

def takeOption (n : Name) (byLetter : Bool) (attached? : Option Attached) (items : List Item) :
    Option (Taken items) :=
  match attached? with
  | none => takeBehind [] n items
  | some a => if byLetter then takeChain n a items else takeAssigned n a items

/-- `refused` tells whether an item was left over. -/
def consume (o : Options) (refused : Bool) (items : List Item) : Except Stop (Options × Bool) :=
  match items with
  | [] => .ok (o, refused)
  | .option n byLetter attached? :: items =>
    match takeOption n byLetter attached? items with
    | none => .error .refused
    | some t => do
      have : t.rest.length < items.length + 1 := Nat.lt_succ_of_le t.length_rest
      consume (← o.setAll t.options) (refused || t.hasUnknown) t.rest
  | _ :: items => consume o true items
termination_by items.length

def Options.read (args : List String) : Except Stop Options :=
  match readItems args with
  | .error _ => .error .refused
  | .ok items => do
    let (o, refused) ← consume {} false items
    if refused then .error .refused else return o

end AlgebraDesk.CommandLine
