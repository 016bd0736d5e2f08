import AlgebraDesk.Proofs.Calculator.Alphabet
import AlgebraDesk.Proofs.Calculator.Safety
import AlgebraDesk.Proofs.Console.Tools
import AlgebraDesk.Proofs.Console.Typing
import AlgebraDesk.Proofs.Text.Keyword

/-!
# Lines without a command

A line that is not blank, does not quit or call for help, and does not begin with the word of a
command is given to one of two tools as a whole.  The calculator gets it when it knows all its
characters, which a pattern decides before the calculator looks; everything else is analyzed.  So
nobody is told of a foreign character unless the calculator was asked for.

* `commandWords`, `IsBare`   the words of the commands, and the lines without one;
* `read_bare`                how such a line is read;
* `MentionsForeign`          a report whose error is about a foreign character;
* `bare_settled`             the alphabet, the tool, and what it shows.
-/

namespace AlgebraDesk.Console

open Calculator (inAlphabet isArithmetic joined numberLetters patternLetters symbolLetters tokenize
  wholly)

/-! ## lines -/

/-- in lower case -/
def commandWords : List String :=
  ["calc", "analyze", "classify", "system", "quad", "fib", "next", "play", "explain", "challenge",
    "answer", "plot", "models", "predict"]

/-- a line without blanks at its ends that is no command -/
structure IsBare (line : List Char) : Prop where
  ne_nil : line ≠ []
  whole : Text.lowerText (String.ofList line) ∉ ["help", "quit", "exit"]
  word : wordOf line ∉ commandWords

section
variable {line typed : List Char} {word : String}

theorem named?_eq_none (h : word ∉ commandWords) (argument : String) :
    Command.named? word argument = none := by
  unfold Command.named?
  split <;> first | rfl | exact absurd (by decide) h

theorem ofTrimmed_bare (h : IsBare line) : Line.ofTrimmed line = .command (.bare line) := by
  obtain ⟨hne, hwhole, hword⟩ := h
  simp only [List.mem_cons, List.not_mem_nil, or_false, not_or] at hwhole
  obtain ⟨hhelp, hquit, hexit⟩ := hwhole
  have hsystem : wordOf line ≠ "system" := by
    intro hsystem
    rw [hsystem] at hword
    exact hword (by decide)
  rw [ofTrimmed_command hne hquit hexit hhelp hsystem, named?_eq_none hword, Option.getD_none]

/-- **A line without a command** is one for itself, whatever follows. -/
theorem read_bare (h : IsBare (Text.trim typed)) (rest : List (List Char)) :
    Script.read (typed :: rest)
      = (Script.read rest).cons (.command (.bare (Text.trim typed))) :=
  read_lines ⟨typed, [], _, .command (ofTrimmed_bare h)⟩ rest

end

/-! ## what is shown -/

/-- The error of a report, by its code or by its message, is about a foreign character. -/
def MentionsForeign (r : Report) : Prop := ∃ spell : Value → String,
  ("error_code", Value.text "INVALID_CHARACTER") ∈ r.fields spell ∨
    ∃ message : String, ("error", Value.text message) ∈ r.fields spell ∧
      "Invalid character".toList <+: message.toList

theorem not_mentions_analysis (a : Analysis) : ¬ MentionsForeign (.analysis a) := by
  simp [MentionsForeign, Report.fields, Report.resultFields]

theorem not_mentions_done (result : String) (value? : Option Float) :
    ¬ MentionsForeign (.evaluation (.done result value?)) := by
  simp [MentionsForeign, Report.fields, Report.answerFields, Answer.fields]

/-- A refusal is about a foreign character when its kind says so. -/
theorem mentions_failed_iff (e : Calculator.Error) :
    MentionsForeign (.evaluation (.failed e.message e.code)) ↔ e.kind = .invalidCharacter := by
  have hfields : MentionsForeign (.evaluation (.failed e.message e.code)) ↔
      e.code = "INVALID_CHARACTER" ∨ "Invalid character".toList <+: e.message.toList := by
    simp [MentionsForeign, Report.fields, Report.answerFields, Answer.fields, eq_comm]
  rw [hfields, e.code_eq_iff, e.prefix_message_iff, or_self]

/-- A line that is trimmed and not empty is not blank. -/
theorem hasInk_trim {typed : List Char} (h : Text.trim typed ≠ []) :
    Text.hasInk (Text.trim typed) = true := by
  obtain ⟨c, rest, hline⟩ := List.exists_cons_of_ne_nil h
  have hhead := Text.head_of_trim (Text.trim_trim typed) c (by rw [hline]; rfl)
  rw [hline, Text.hasInk, List.any_cons, hhead]
  rfl

theorem exists_evaluation {line : List Char} (hink : Text.hasInk line = true)
    (harith : isArithmetic line = true) (places : Int) :
    ∃ r, Report.evaluate places (some (String.ofList line)) = .ok r ∧ ¬ MentionsForeign r := by
  have htext : Text.hasInk (String.ofList line).toList = true := by rwa [String.toList_ofList]
  have hanswer := Calculator.answer_inked htext places
  rw [String.toList_ofList] at hanswer
  unfold Report.evaluate
  rcases hanswer with ⟨x, -, -, hdone⟩ | ⟨e, he, hfailed⟩
  · rw [hdone]
    exact ⟨_, rfl, not_mentions_done _ _⟩
  · rw [hfailed]
    exact ⟨_, rfl, (mentions_failed_iff e).not.mpr
      (Calculator.kind_ne_of_isArithmetic harith he)⟩

/-! ## the tool -/

/-- the tool for a line that is no command -/
def toolFor (line : List Char) : Tool := if isArithmetic line then .evaluate else .analyze

theorem bare_eq (line : List Char) :
    Command.bare line = (toolFor line).command (String.ofList line) := by
  unfold Command.bare toolFor
  split <;> rfl

theorem bare_eq_evaluate_iff (line : List Char) :
    Command.bare line = .evaluate (String.ofList line) ↔ isArithmetic line = true := by
  unfold Command.bare
  split <;> rename_i h <;> simp [h]

theorem bare_eq_analyze_iff (line : List Char) :
    Command.bare line = .analyze (String.ofList line) ↔ ¬ isArithmetic line = true := by
  unfold Command.bare
  split <;> rename_i h <;> simp [h]

/-- Whichever tool it is, there is a report, and no error about a foreign character. -/
theorem exists_report {line : List Char} (hink : Text.hasInk line = true) (places : Int) :
    ∃ r, (toolFor line).report places (String.ofList line) = .ok r ∧ ¬ MentionsForeign r := by
  unfold toolFor
  split
  · rename_i harith
    exact exists_evaluation hink harith places
  · exact ⟨_, rfl, not_mentions_analysis _⟩

/-- **A line without a command goes to one tool as a whole.**  The pattern and the calculator drop
the same blanks and have the same alphabet, so that the pattern takes a line just when no foreign
character is reported.  A line that is not blank, does not quit or call for help, and does not begin
with the word of a command is evaluated then and analyzed otherwise.  The report is the one of the
tool for the whole line, nothing else changes, and its error is never about a foreign character. -/
theorem bare_settled :
    (∀ c, c ∈ patternLetters ↔ c ∈ numberLetters ∨ c ∈ symbolLetters) ∧
    (∀ line : List Char, joined line = Text.removeBlanks line ∧
      ((wholly patternLetters).rmatch (joined line) = true ↔
        ∀ c ∈ joined line, c ∈ numberLetters ∨ c ∈ symbolLetters) ∧
      ((wholly patternLetters).rmatch (joined line) = true ↔
        ∀ c index, tokenize line ≠ .error (.invalidCharacter c index))) ∧
    ∀ typed, IsBare (Text.trim typed) →
      let line := Text.trim typed
      let text := String.ofList line
      ∃ c : Command,
        (∀ rest, Script.read (typed :: rest) = (Script.read rest).cons (.command c)) ∧
        (c = .evaluate text ↔ ∀ x index, tokenize line ≠ .error (.invalidCharacter x index)) ∧
        (c = .analyze text ↔ ∃ x index, tokenize line = .error (.invalidCharacter x index)) ∧
        ∀ (s : Setting) (d : Desk), ∃ r, (d.perform s c).response = .ok (.report r) ∧
          (c = .evaluate text → Report.evaluate s.places (some text) = .ok r) ∧
          (c = .analyze text → Report.analyze s.places text = r) ∧
          (d.perform s c).desk = d ∧ (d.perform s c).requests = [] ∧ ¬ MentionsForeign r := by
  refine ⟨fun c => ?_, fun line => ⟨Calculator.joined_eq line, ?_, ?_⟩, fun typed hbare => ?_⟩
  · rw [Calculator.mem_patternLetters, Calculator.inAlphabet_iff]
  · rw [Calculator.takes_line_iff, Calculator.isArithmetic_iff_all, Calculator.joined_eq]
    simp only [Calculator.inAlphabet_iff]
  · rw [Calculator.takes_line_iff, Calculator.isArithmetic_iff]
  · intro line text
    refine ⟨.bare line, read_bare hbare, ?_, ?_, fun s d => ?_⟩
    · rw [bare_eq_evaluate_iff, Calculator.isArithmetic_iff]
    · rw [bare_eq_analyze_iff, Calculator.isArithmetic_iff]
      simp only [ne_eq, not_forall, not_not]
    · obtain ⟨hresponse, hdesk, hrequests⟩ := (toolFor line).perform_command s d text
      obtain ⟨r, hr, hforeign⟩ := exists_report (hasInk_trim hbare.ne_nil) s.places
      rw [← bare_eq] at hresponse hdesk hrequests
      rw [hr] at hresponse
      refine ⟨r, hresponse, fun h => ?_, fun h => ?_, hdesk, hrequests, hforeign⟩
      · rw [toolFor, if_pos ((bare_eq_evaluate_iff line).mp h)] at hr
        exact hr
      · rw [toolFor, if_neg ((bare_eq_analyze_iff line).mp h)] at hr
        exact Except.ok.inj hr

/-- A wide space in a sum, and the digit 3 of another script, which is foreign. -/
theorem bare_settled_wide :
    let sum := "\t2\u2003+ 3".toList
    let foreign := "2+\u0663".toList
    IsBare (Text.trim sum) ∧ IsBare (Text.trim foreign) ∧
    (Script.read [sum]).entries = [.command (.evaluate "2\u2003+ 3")] ∧
    (Script.read [foreign]).entries = [.command (.analyze "2+\u0663")] := by
  intro sum foreign
  have hsum : IsBare (Text.trim sum) :=
    ⟨by decide +kernel, by decide +kernel, by decide +kernel⟩
  have hforeign : IsBare (Text.trim foreign) :=
    ⟨by decide +kernel, by decide +kernel, by decide +kernel⟩
  obtain ⟨c, hread, hevaluate, -⟩ := bare_settled.2.2 sum hsum
  obtain ⟨c', hread', -, hanalyze, -⟩ := bare_settled.2.2 foreign hforeign
  have hok : tokenize (Text.trim sum) = .ok [.number ['2'], .symbol ['+'], .number ['3']] := by
    decide +kernel
  have hc := hevaluate.mpr fun x index h => by
    rw [hok] at h
    cases h
  have hc' := hanalyze.mpr ⟨'\u0663', 2, by decide +kernel⟩
  rw [hread, hread', hc, hc']
  have htext : String.ofList (Text.trim sum) = "2\u2003+ 3" := by decide +kernel
  have htext' : String.ofList (Text.trim foreign) = "2+\u0663" := by decide +kernel
  rw [htext, htext']
  exact ⟨hsum, hforeign, rfl, rfl⟩

end AlgebraDesk.Console
