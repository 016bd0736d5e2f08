/-!
# Names of options

An option is written with two dashes and its word, or with one dash and its letter if it has one.
A word may be cut short as long as no other option begins like it.

* `Name`        the options;
* `Name.word`, `Name.letter?`, `Name.arity`  how an option is written, and how many values it takes;
* `ofWord?`, `ofLetter?`  the option for a word and for a letter;
* `beginning`   the options whose words begin with a text.
-/

namespace AlgebraDesk.CommandLine

inductive Name where
  | help | evaluate | analyze | classify | quadratic | fib | play | plot | ascii | output
  | modelInfo | predict | apiBase | format | precision | version | logLevel | logFile | healthCheck
  deriving DecidableEq, Repr

namespace Name

def word : Name → String
  | .help => "help"
  | .evaluate => "eval"
  | .analyze => "analyze"
  | .classify => "classify"
  | .quadratic => "quadratic"
  | .fib => "fib"
  | .play => "play"
  | .plot => "plot"
  | .ascii => "ascii"
  | .output => "output"
  | .modelInfo => "model-info"
  | .predict => "predict"
  | .apiBase => "api-base"
  | .format => "format"
  | .precision => "precision"
  | .version => "version"
  | .logLevel => "log-level"
  | .logFile => "log-file"
  | .healthCheck => "health-check"

def letter? : Name → Option Char
  | .help => some 'h'
  | .evaluate => some 'e'
  | .analyze => some 'a'
  | .output => some 'o'
  | .precision => some 'p'
  | .version => some 'v'
  | _ => none

/-- How many values follow the option. -/
def arity : Name → Nat
  | .help | .play | .ascii | .modelInfo | .version | .healthCheck => 0
  | .quadratic | .predict => 3
  | _ => 1

def all : List Name :=
  [.help, .evaluate, .analyze, .classify, .quadratic, .fib, .play, .plot, .ascii, .output,
   .modelInfo, .predict, .apiBase, .format, .precision, .version, .logLevel, .logFile,
   .healthCheck]

def ofWord? (cs : List Char) : Option Name := all.find? fun n => n.word.toList == cs

def ofLetter? (c : Char) : Option Name := all.find? fun n => n.letter? == some c

def beginning (cs : List Char) : List Name := all.filter fun n => cs.isPrefixOf n.word.toList

end Name

end AlgebraDesk.CommandLine
