import AlgebraDesk.Text.Blank
import AlgebraDesk.Text.Case
import AlgebraDesk.Value.Number

/-!
# Challenges

A challenge asks for the sign of a discriminant or for the next number of a sequence.  Which one is
asked depends on two draws: a number below one half asks for a sign, and an index, counted around,
chooses among the questions of that kind.

* `Challenge`        kind, question and expected answer;
* `signChallenges`, `sequenceChallenges`  the questions;
* `ofDraws`          the challenge for two draws;
* `Verdict`, `grade` what an answer is worth.
-/

namespace AlgebraDesk

structure Challenge where
  kind : String
  question : String
  answer : String
  deriving DecidableEq, Repr

namespace Challenge

/-! ## the questions -/

def ofSign (a b c : Int) (sign : String) : Challenge :=
  ⟨"quadratic", "Challenge: For a=" ++ toString a ++ ", b=" ++ toString b ++ ", c=" ++ toString c
    ++ ", is discriminant positive, zero, or negative?", sign⟩

def ofSequence (terms : List Nat) (next : Nat) : Challenge :=
  ⟨"fibonacci", "Challenge: Next number in sequence " ++ ", ".intercalate (terms.map toString)
    ++ " ?", toString next⟩

def signChallenges : List Challenge :=
  [ofSign 1 (-3) 2 "positive", ofSign 1 (-2) 1 "zero", ofSign 2 1 3 "negative"]

def sequenceChallenges : List Challenge :=
  [ofSequence [0, 1, 1, 2, 3] 5, ofSequence [1, 1, 2, 3, 5] 8, ofSequence [2, 3, 5, 8, 13] 21]

/-! ## drawing one -/

def half : Number := .real 0.5

def asksForSign (draw : Number) : Bool := draw.lt half

/-- The index is counted around the list, also when it is negative. -/
def choose (challenges : List Challenge) (index : Int) : Option Challenge :=
  challenges[(index % challenges.length).toNat]?

def candidates (draw : Number) : List Challenge :=
  if asksForSign draw then signChallenges else sequenceChallenges

def ofDraws (draw : Number) (index : Int) : Challenge :=
  (choose (candidates draw) index).getD (ofSign 1 (-3) 2 "positive")

/-! ## answers -/

inductive Verdict where
  | correct | wrong | warn
  deriving DecidableEq, Repr

def Verdict.name : Verdict → String
  | .correct => "correct"
  | .wrong => "wrong"
  | .warn => "warn"

/-- An answer as it is compared: without blanks around it and in lower case. -/
def canonical (given : String) : String :=
  Text.lowerText (String.ofList (Text.trim given.toList))

/-- What an answer is worth, and what the user is told. -/
def grade (challenge? : Option Challenge) (given : String) : Verdict × String :=
  match challenge? with
  | none => (.warn, "Create a challenge first.")
  | some c =>
    if (canonical given).isEmpty then (.warn, "Type an answer first.")
    else if canonical given = c.answer then (.correct, "Correct. Great presentation moment.")
    else (.wrong, "Not yet. Correct answer: " ++ c.answer ++ ".")

end Challenge

end AlgebraDesk
