import AlgebraDesk.Program
import AlgebraDesk.Proofs.Text

/-!
# One tool, two ways to call it

The tools that read a text are called by a command of the console or by an option of the command
line.  The console trims the line, cuts off the word of the command and trims the rest before the
tool breaks it into lines; the option hands the text over as it is.  Both give the same report,
since no tool looks at the blanks at the ends of its text, and trimming may come before the breaking.

* `Tool`              the tools, with their words, commands, options and reports;
* `Tool.report_trim`  no tool looks at the blanks at the ends;
* `read_command`      how a line that calls a tool is read;
* `read_option`       how an option that calls a tool is read;
* `command_eq_option` the two ways agree.
-/

namespace AlgebraDesk

/-! ## what the tools do not look at -/

section
variable {cs ds : List Char}

namespace Calculator

theorem stages_congr (h : Text.removeBlanks cs = Text.removeBlanks ds) : stages cs = stages ds := by
  unfold stages tokenize
  rw [h]

/-- The calculator sees a text without its blanks. -/
theorem answer_congr (h : Text.removeBlanks cs = Text.removeBlanks ds) (places : Int) :
    answer places (some (String.ofList cs)) = answer places (some (String.ofList ds)) := by
  unfold answer evaluate
  simp only [String.toList_ofList, Text.hasInk_eq, h, stages_congr h]

end Calculator

theorem Category.classify_congr (h : Text.trim cs = Text.trim ds) : classify cs = classify ds :=
  congrArg ofTrimmed h

theorem Analysis.analyze_congr (h : Text.trim cs = Text.trim ds) (places : Int) :
    analyze places cs = analyze places ds := by
  unfold analyze
  rw [h]

end

namespace Console

open CommandLine (Options)

/-- the tools that read a text -/
inductive Tool where
  | evaluate | analyze | classify
  deriving DecidableEq, Repr

namespace Tool

/-- of the command -/
def word : Tool → String
  | .evaluate => "calc"
  | .analyze => "analyze"
  | .classify => "classify"

def command : Tool → String → Command
  | .evaluate => .evaluate
  | .analyze => .analyze
  | .classify => .classify

/-- the option -/
def name : Tool → CommandLine.Name
  | .evaluate => .evaluate
  | .analyze => .analyze
  | .classify => .classify

/-- the option with its text, as one argument -/
def argument (t : Tool) (text : String) : String := "--" ++ t.name.word ++ "=" ++ text

def options (t : Tool) (text : String) : Options :=
  match t with
  | .evaluate => { evaluate? := some text }
  | .analyze => { analyze? := some text }
  | .classify => { classify? := some text }

def report (t : Tool) (places : Int) (text : String) : Except Fault Report :=
  match t with
  | .evaluate => Report.evaluate places (some text)
  | .analyze => .ok (Report.analyze places text)
  | .classify => .ok (Report.classify text)

variable (t : Tool)

/-- A tool gives its report and changes nothing. -/
theorem perform_command (s : Setting) (d : Desk) (text : String) :
    (d.perform s (t.command text)).response = (t.report s.places text).map .report ∧
    (d.perform s (t.command text)).desk = d ∧ (d.perform s (t.command text)).requests = [] := by
  cases t <;> exact ⟨rfl, rfl, rfl⟩

theorem outcomes_options (s : Setting) (d : Desk) (text : String) :
    Program.outcomes? s d (t.options text) = some [d.perform s (t.command text)] := by
  cases t <;> rfl

/-- **No tool looks at the blanks at the ends of its text.** -/
theorem report_trim (places : Int) (cs : List Char) :
    t.report places (String.ofList (Text.trim cs)) = t.report places (String.ofList cs) := by
  have htyped : Text.trim (Report.typed (String.ofList (Text.trim cs)))
      = Text.trim (Report.typed (String.ofList cs)) := by
    unfold Report.typed
    rw [String.toList_ofList, String.toList_ofList]
    exact Text.trim_breakLines_trim cs
  cases t with
  | evaluate =>
    unfold report Report.evaluate
    dsimp only
    rw [Calculator.answer_congr (Text.removeBlanks_trim cs)]
  | analyze =>
    exact congrArg (fun a => Except.ok (Report.analysis a)) (Analysis.analyze_congr htyped places)
  | classify =>
    exact congrArg (fun c => Except.ok (Report.classification c)) (Category.classify_congr htyped)

end Tool

/-! ## the command -/

section
variable {t : Tool} {word : List Char}

/-- A text in lower case keeps its blanks. -/
theorem mem_of_lowerText {line : List Char} {w : String}
    (h : Text.lowerText (String.ofList line) = w) {c : Char} (hc : Text.isBlank c = true)
    (hmem : c ∈ line) : c ∈ w.toList := by
  rw [← h, Text.lowerText, String.toList_ofList, String.toList_ofList]
  exact Text.mem_lower_of_isBlank hc hmem

theorem plain_of_lowerText (hword : Text.lowerText (String.ofList word) = t.word) :
    ∀ c ∈ word, Text.isBlank c = false := by
  intro c hc
  cases hblank : Text.isBlank c with
  | false => rfl
  | true =>
    have hmem := mem_of_lowerText hword hblank hc
    have hnone : t.word.toList.any Text.isBlank = false := by cases t <;> rfl
    rw [List.any_eq_true.mpr ⟨c, hmem, hblank⟩] at hnone
    cases hnone

theorem ne_nil_of_lowerText (hword : Text.lowerText (String.ofList word) = t.word) :
    word ≠ [] := by
  rintro rfl
  cases t <;> exact absurd hword (by decide)

/-- What is behind a word and a space, when blanks at the end are dropped. -/
theorem trim_word (hword : Text.lowerText (String.ofList word) = t.word) (text : List Char) :
    ∃ rest, Text.trim (word ++ ' ' :: text) = word ++ rest ∧ (∀ c ∈ rest.head?, c = ' ') ∧
      Text.trim (rest.drop 1) = Text.trim text := by
  have hplain := plain_of_lowerText hword
  have hstart : Text.trimStart (word ++ ' ' :: text) = word ++ ' ' :: text := by
    refine Text.trimStart_of_head fun c hc => ?_
    rw [List.head?_append_of_ne_nil _ (ne_nil_of_lowerText hword)] at hc
    exact hplain c (List.mem_of_mem_head? hc)
  obtain ⟨back, hback, hblank⟩ := Text.exists_trimEnd (' ' :: text)
  refine ⟨Text.trimEnd (' ' :: text), ?_, ?_, ?_⟩
  · rw [Text.trim, hstart, Text.trimEnd_append_plain hplain]
  · intro c hc
    have hhead := congrArg List.head? hback
    rw [List.head?_append, Option.mem_def.mp hc] at hhead
    exact (Option.some.inj hhead).symm
  · cases hrest : Text.trimEnd (' ' :: text) with
    | nil =>
      rw [hrest, List.nil_append] at hback
      have htext : Text.IsBlankText text := fun c hc =>
        hblank c (by rw [← hback]; exact List.mem_cons_of_mem _ hc)
      exact (Text.trim_append_blank htext []).symm
    | cons c rest =>
      rw [hrest, List.cons_append] at hback
      rw [(List.cons.inj hback).2]
      exact (Text.trim_append_blank hblank rest).symm

theorem splitWord_append {rest : List Char} (hword : ∀ c ∈ word, Text.isBlank c = false)
    (hrest : ∀ c ∈ rest.head?, c = ' ') :
    splitWord (word ++ rest) = (word, Text.trim (rest.drop 1)) := by
  have hspace : ∀ c ∈ word, (c != ' ') = true := by
    intro c hc
    rw [bne_iff_ne]
    rintro rfl
    exact absurd (hword ' ' hc) (by decide)
  have hstop : ∀ c ∈ rest.head?, (c != ' ') = false := fun c hc => by rw [hrest c hc]; rfl
  unfold splitWord
  rw [takeWhile_append_stop hspace hstop, dropWhile_append_stop hspace hstop]

/-- A line that begins with the word of a tool is no word that quits and no call for help. -/
theorem whole_ne {w : String} {rest : List Char} (hrest : ∀ c ∈ rest.head?, c = ' ')
    (hword : Text.lowerText (String.ofList word) = t.word) (hne : t.word ≠ w)
    (hspace : ' ' ∉ w.toList) : Text.lowerText (String.ofList (word ++ rest)) ≠ w := by
  intro h
  cases rest with
  | nil =>
    rw [List.append_nil] at h
    exact hne (hword.symm.trans h)
  | cons c rest =>
    obtain rfl := hrest c rfl
    exact hspace (mem_of_lowerText h Text.isBlank_space (by simp))

/-- A line that is no other entry is a command, by its word or as a whole. -/
theorem ofTrimmed_command {line : List Char} (hne : line ≠ [])
    (hquit : Text.lowerText (String.ofList line) ≠ "quit")
    (hexit : Text.lowerText (String.ofList line) ≠ "exit")
    (hhelp : Text.lowerText (String.ofList line) ≠ "help") (hsystem : wordOf line ≠ "system") :
    Line.ofTrimmed line = .command
      ((Command.named? (wordOf line) (argumentOf line)).getD (.bare line)) := by
  have hempty : line.isEmpty = false := List.isEmpty_eq_false_iff.mpr hne
  have hquits : quitWords.contains (Text.lowerText (String.ofList line)) = false := by
    simp only [quitWords, List.contains_cons, List.contains_nil, beq_false_of_ne hquit,
      beq_false_of_ne hexit, Bool.or_self]
  unfold Line.ofTrimmed
  simp only [hempty, hquits, beq_false_of_ne hhelp, beq_false_of_ne hsystem, Bool.false_eq_true,
    if_false]

/-- **A line that calls a tool** hands it the trimmed text, however the word and the line are
typed. -/
theorem read_command (hword : Text.lowerText (String.ofList word) = t.word)
    {front : List Char} (hfront : Text.IsBlankText front) (text : List Char) :
    Line.read (front ++ (word ++ ' ' :: text))
      = .command (t.command (String.ofList (Text.trim text))) := by
  have hline := Text.trim_between hfront Text.isBlankText_nil (word ++ ' ' :: text)
  obtain ⟨rest, htrim, hrest, hargument⟩ := trim_word hword text
  have hsplit := splitWord_append (plain_of_lowerText hword) hrest
  have hquit := whole_ne (w := "quit") hrest hword (by cases t <;> decide) (by decide)
  have hexit := whole_ne (w := "exit") hrest hword (by cases t <;> decide) (by decide)
  have hhelp := whole_ne (w := "help") hrest hword (by cases t <;> decide) (by decide)
  have hwordOf : wordOf (word ++ rest) = t.word := by rw [wordOf, hsplit, hword]
  have hargumentOf : argumentOf (word ++ rest) = String.ofList (Text.trim text) := by
    rw [argumentOf, hsplit, hargument]
  have hsystem : wordOf (word ++ rest) ≠ "system" := by
    rw [hwordOf]
    cases t <;> decide
  have hne := List.append_ne_nil_of_left_ne_nil (ne_nil_of_lowerText hword) rest
  rw [List.append_nil] at hline
  rw [Line.read, hline, htrim, ofTrimmed_command hne hquit hexit hhelp hsystem, hwordOf,
    hargumentOf]
  cases t <;> rfl

end

/-! ## the option -/

/-- No option has an equality sign in its word. -/
theorem ofWord_assigned (stem value : List Char) :
    CommandLine.Name.ofWord? (stem ++ '=' :: value) = none := by
  unfold CommandLine.Name.ofWord?
  rw [List.find?_eq_none]
  intro n _ hn
  have hmem : '=' ∈ n.word.toList := by
    rw [beq_iff_eq.mp hn]
    simp
  have hnone : '=' ∉ n.word.toList := by cases n <;> decide
  exact hnone hmem

theorem splitAssigned_append {stem : List Char} (h : '=' ∉ stem) (value : List Char) :
    CommandLine.splitAssigned (stem ++ '=' :: value) = (stem, some value) := by
  have hstem : ∀ c ∈ stem, (c != '=') = true := by
    intro c hc
    rw [bne_iff_ne]
    rintro rfl
    exact h hc
  unfold CommandLine.splitAssigned
  rw [dropWhile_append_stop hstem (fun c hc => by cases hc; rfl),
    takeWhile_append_stop hstem (fun c hc => by cases hc; rfl)]

theorem readItems_argument (t : Tool) (text : String) :
    CommandLine.readItems [t.argument text]
      = .ok [.option t.name false (some ⟨true, text.toList⟩)] := by
  have hlist : (t.argument text).toList
      = '-' :: '-' :: (t.name.word.toList ++ '=' :: text.toList) := by
    simp [Tool.argument]
  have hstop : (t.argument text == "--") = false := by
    refine beq_false_of_ne fun h => ?_
    rw [h] at hlist
    simp at hlist
  have hstem : '=' ∉ t.name.word.toList := by cases t <;> decide
  have hname : CommandLine.Name.ofWord? t.name.word.toList = some t.name := by cases t <;> decide
  have hitem : CommandLine.Item.read (t.argument text)
      = .ok (.option t.name false (some ⟨true, text.toList⟩)) := by
    unfold CommandLine.Item.read CommandLine.Item.ofWord
    rw [hlist]
    simp only [splitAssigned_append hstem, ofWord_assigned, hname]
    rfl
  unfold CommandLine.readItems
  rw [hstop, if_neg Bool.false_ne_true, hitem]
  rfl

/-- **An option that calls a tool** hands it the text as it is. -/
theorem read_option (t : Tool) (text : String) :
    Options.read [t.argument text] = .ok (t.options text) := by
  unfold Options.read
  rw [readItems_argument]
  have htake : CommandLine.takeOption t.name false (some ⟨true, text.toList⟩) []
      = some ⟨[(t.name, [text])], false, [], Nat.le_refl _⟩ := by
    have hself : String.ofList text.toList = text := String.ofList_toList
    cases t <;> simp [CommandLine.takeOption, CommandLine.takeAssigned, Tool.name,
      CommandLine.Name.arity, hself]
  have hset : ({} : Options).setAll [(t.name, [text])] = .ok (t.options text) := by
    cases t <;> rfl
  dsimp only
  rw [CommandLine.consume, htake]
  dsimp only
  rw [hset]
  show (CommandLine.consume (t.options text) false [] >>= _) = _
  rw [CommandLine.consume]
  rfl

/-! ## both -/

/-- **A command of the console and the option give the same report.**  The word of the command may
be typed in any letter case, with blanks in front; the text may have blanks anywhere.  The command
leaves the desk as it is and asks the backend for nothing. -/
theorem command_eq_option (t : Tool) {word front : List Char}
    (hword : Text.lowerText (String.ofList word) = t.word) (hfront : Text.IsBlankText front)
    (text : List Char) (s : Setting) (d : Desk) :
    ∃ (c : Command) (o : Outcome),
      Line.read (front ++ (word ++ ' ' :: text)) = .command c ∧
      Options.read [t.argument (String.ofList text)] = .ok (t.options (String.ofList text)) ∧
      Program.outcomes? s d (t.options (String.ofList text)) = some [o] ∧
      (d.perform s c).response = o.response ∧
      o.response = (t.report s.places (String.ofList text)).map .report ∧
      (d.perform s c).desk = d ∧ (d.perform s c).requests = [] := by
  obtain ⟨hresponse, hdesk, hrequests⟩ :=
    t.perform_command s d (String.ofList (Text.trim text))
  obtain ⟨hoption, -, -⟩ := t.perform_command s d (String.ofList text)
  refine ⟨_, _, read_command hword hfront text, read_option t _, t.outcomes_options s d _, ?_,
    hoption, hdesk, hrequests⟩
  rw [hresponse, hoption, t.report_trim]

/-- Two lines typed as one, with blanks on both sides of the break. -/
theorem command_eq_option_system :
    let word := "ANALYZE".toList
    let text := "x=2 \\n x=2 ".toList
    let desk : Desk := {}
    Text.lowerText (String.ofList word) = Tool.analyze.word ∧ Text.IsBlankText ['\t'] ∧
    ∃ (c : Command) (o : Outcome), Line.read (['\t'] ++ (word ++ ' ' :: text)) = .command c ∧
      Program.outcomes? {} desk (Tool.analyze.options (String.ofList text)) = some [o] ∧
      (desk.perform {} c).response = o.response := by
  intro word text desk
  have hword : Text.lowerText (String.ofList word) = Tool.analyze.word := by decide +kernel
  have hfront : Text.IsBlankText ['\t'] := List.forall_mem_singleton.mpr (by decide)
  obtain ⟨c, o, hline, -, hoption, hsame, -⟩ :=
    command_eq_option .analyze hword hfront text {} desk
  exact ⟨hword, hfront, c, o, hline, hoption, hsame⟩

end Console

end AlgebraDesk
