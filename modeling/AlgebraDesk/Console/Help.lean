import AlgebraDesk.Fibonacci.Sequence

/-!
# Help of the console

What the console shows when it is asked for help: its commands, each with a line.
-/

namespace AlgebraDesk.Console

def programVersion : String := "1.0.0"

def helpLines : List String :=
  ["MathExplorer version " ++ programVersion,
   "",
   "Bare input is evaluated by the calculator when it only uses digits and",
   "+ - * / ( ) . and is analyzed otherwise.",
   "",
   "  calc EXPR            evaluate arithmetic, e.g. calc (2+3)*4",
   "  analyze TEXT         analyze f(x)=x^2-4x+3, x^2-5x+6=0, x<3, derivative x^2",
   "                       (write \\n between the two equations of a system)",
   "  system               enter a two-line system interactively",
   "  classify TEXT        show only the input category",
   "  quad A B C           solve a*x^2+b*x+c=0 (also: quad example, quad reset)",
   "  fib [N]              generate N Fibonacci terms (default "
     ++ toString Fibonacci.defaultTerms ++ ")",
   "  next                 reveal the next Fibonacci term",
   "  play                 reveal the remaining terms one by one",
   "  explain              explain the latest quadratic and Fibonacci results",
   "  challenge            ask a new challenge question",
   "  answer TEXT          answer the current challenge",
   "  plot TEXT            plot a function, equation or graph expression",
   "  models               show the regression models from the backend",
   "  predict S L T        predict a score from study hours, sleep hours, practice tests",
   "  help                 show this text",
   "  quit                 exit"]

end AlgebraDesk.Console
