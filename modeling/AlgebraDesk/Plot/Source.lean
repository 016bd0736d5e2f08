import AlgebraDesk.Category
import AlgebraDesk.Plot.Expression
import AlgebraDesk.Plot.Failure
import AlgebraDesk.Text.Case

/-!
# From a text to a graph expression

The text may begin with `f(x) =` or `y =`.  Before it is read, words that have no place in a
formula are refused, in any letter case, and so is everything that relates two sides.  The only
variable is `x`.

* `forbiddenTokens`, `forbidden?`  the refused words, and the first of them in a text;
* `source`      the text without blanks around it and without its beginning;
* `Expression.ofText`  the expression of a text, or why there is none.
-/

namespace AlgebraDesk.Plot

def forbiddenTokens : List String :=
  ["__", "import", "lambda", "eval", "exec", "open", "os.", "sys.", "subprocess", "builtins",
   "getattr", "setattr", "globals", "locals"]

def forbidden? (cs : List Char) : Option String :=
  let lowered := Text.lower cs
  forbiddenTokens.find? fun token => Text.holds token.toList lowered

def source (text : List Char) : List Char :=
  let clean := Text.trim text
  Text.trim ((Category.dropFunction? clean).getD clean)

/-- Two sides with an equality or a comparison between them. -/
def isRelation (cs : List Char) : Bool := Category.hasComparison cs || Category.hasEquality cs

def Expression.ofText (text : List Char) : Except Refusal Expression :=
  let body := source text
  if body.isEmpty then .error .nothing
  else match forbidden? body with
    | some token => .error (.forbidden token)
    | none =>
      if isRelation body then .error .notACurve
      else match Expression.read? body with
        | none => .error (.unreadable (String.ofList body))
        | some e => if e.symbols.isEmpty then .ok e else .error (.otherSymbols e.symbols)

end AlgebraDesk.Plot
