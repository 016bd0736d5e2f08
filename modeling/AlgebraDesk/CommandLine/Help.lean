/-!
# Help on the command line

What the program prints when it is asked for help: how it is called, and what each option does.
-/

namespace AlgebraDesk.CommandLine

def usageLines : List String :=
  ["usage: mathexplorer [-h] [-e EVAL_EXPR] [-a ANALYZE] [--classify CLASSIFY]",
   "                    [--quadratic A B C] [--fib N] [--play] [--plot PLOT]",
   "                    [--ascii] [-o OUTPUT] [--model-info]",
   "                    [--predict STUDY SLEEP TESTS] [--api-base API_BASE]",
   "                    [--format \x7bjson,human\x7d] [-p PRECISION] [-v]",
   "                    [--log-level \x7bDEBUG,INFO,WARNING,ERROR\x7d]",
   "                    [--log-file LOG_FILE] [--health-check]"]

def optionLines : List String :=
  ["options:",
   "  -h, --help            show this help message and exit",
   "  -e EVAL_EXPR, --eval EVAL_EXPR",
   "                        Evaluate one arithmetic expression and exit",
   "  -a ANALYZE, --analyze ANALYZE",
   "                        Analyze math input (use \\n to separate system lines)",
   "  --classify CLASSIFY   Classify math input and exit",
   "  --quadratic A B C     Solve a*x^2+b*x+c=0",
   "  --fib N               Generate N Fibonacci terms",
   "  --play                With --fib: reveal terms one by one",
   "  --plot PLOT           Plot a function, equation or graph expression",
   "  --ascii               Render plots as ASCII text",
   "  -o OUTPUT, --output OUTPUT",
   "                        PNG path for --plot",
   "  --model-info          Show regression models from the backend",
   "  --predict STUDY SLEEP TESTS",
   "                        Predict a final score from study hours, sleep hours",
   "                        and practice tests",
   "  --api-base API_BASE   Regression backend base URL",
   "  --format \x7bjson,human\x7d",
   "                        Output format: json (machine-readable) or human",
   "                        (human-readable)",
   "  -p PRECISION, --precision PRECISION",
   "                        Decimal places for non-integer results",
   "  -v, --version         Show program version",
   "  --log-level \x7bDEBUG,INFO,WARNING,ERROR\x7d",
   "                        Set logging level (default: MATHEXPLORER_LOG_LEVEL or",
   "                        WARNING)",
   "  --log-file LOG_FILE   Write logs to file",
   "  --health-check        Run health check and verify dependencies"]

def helpLines : List String := usageLines ++ [""] ++ optionLines

end AlgebraDesk.CommandLine
