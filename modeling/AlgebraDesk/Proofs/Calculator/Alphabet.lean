import AlgebraDesk.Proofs.Calculator.Evaluation
import AlgebraDesk.Proofs.Calculator.Parentheses
import AlgebraDesk.Proofs.Calculator.Runs
import AlgebraDesk.Proofs.Text
import Mathlib.Computability.RegularExpressions

/-!
# Two readings of the alphabet

Whether a line is arithmetic can also be asked of a pattern: letters from one class up to the end of
the line, whose words are joined first.  The calculator has two lists of its own, for numerals and
for symbols, and looks for the first character that is in neither.  Both know the same characters
and drop the same blanks, and so a pattern takes a line just when no foreign character is reported.

* `letters`, `wholly`      a letter from a list, and a text of such letters;
* `rmatch_wholly`          what such a pattern takes;
* `joined_eq`              joining the words of a line drops its blanks;
* `classLetters`           the letters of a class that is written with ranges and backslashes;
* `inAlphabet_iff`, `mem_patternLetters`   the lists of the calculator and of the pattern;
* `takes_line_iff`, `isArithmetic_iff`     which lines are taken, and what is reported;
* `kind_ne_of_isArithmetic`, `Error.code_eq_iff`, `Error.prefix_message_iff`   what an evaluation is
  refused for, and how its code and its message tell.
-/

namespace AlgebraDesk.Calculator

/-! ## patterns -/

/-- one of the letters -/
def letters (ls : List Char) : RegularExpression Char :=
  ls.foldr (fun c p => .char c + p) 0

/-- Any number of the letters up to the end, where a line feed may follow. -/
def wholly (ls : List Char) : RegularExpression Char :=
  (letters ls).star * (1 + .char '\n')

section
variable {ls cs : List Char}

theorem mem_letters : cs ∈ (letters ls).matches' ↔ ∃ c ∈ ls, cs = [c] := by
  induction ls with
  | nil => exact iff_of_false (Language.notMem_zero cs) (by simp)
  | cons l ls ih =>
    have hcons : letters (l :: ls) = .char l + letters ls := rfl
    rw [hcons, RegularExpression.matches'_add, RegularExpression.matches'_char, Language.mem_add,
      ih, List.exists_mem_cons_iff]
    exact Iff.rfl

theorem mem_star_letters : cs ∈ (letters ls).star.matches' ↔ ∀ c ∈ cs, c ∈ ls := by
  rw [RegularExpression.matches'_star, Language.mem_kstar]
  constructor
  · rintro ⟨parts, rfl, hparts⟩ c hc
    obtain ⟨part, hpart, hc⟩ := List.mem_flatten.mp hc
    obtain ⟨l, hl, rfl⟩ := mem_letters.mp (hparts part hpart)
    rwa [List.mem_singleton.mp hc]
  · intro h
    refine ⟨cs.map fun c => [c], (List.flatMap_singleton' cs).symm, fun part hpart => ?_⟩
    obtain ⟨c, hc, rfl⟩ := List.mem_map.mp hpart
    exact mem_letters.mpr ⟨c, h c hc, rfl⟩

theorem rmatch_wholly : (wholly ls).rmatch cs = true ↔
    ∃ front, (∀ c ∈ front, c ∈ ls) ∧ (cs = front ∨ cs = front ++ ['\n']) := by
  rw [RegularExpression.rmatch_iff_matches', wholly, RegularExpression.matches'_mul,
    Language.mem_mul]
  constructor
  · rintro ⟨front, hfront, back, hback, rfl⟩
    refine ⟨front, mem_star_letters.mp hfront, ?_⟩
    rw [RegularExpression.matches'_add, Language.mem_add] at hback
    rcases hback with rfl | rfl
    · exact .inl (List.append_nil front)
    · exact .inr rfl
  · rintro ⟨front, hfront, rfl | rfl⟩
    · exact ⟨cs, mem_star_letters.mpr hfront, [], .inl rfl, List.append_nil cs⟩
    · exact ⟨front, mem_star_letters.mpr hfront, ['\n'], .inr rfl, rfl⟩

end

/-! ## the lists -/

/-- The letters that a bracketed class stands for: from one letter to another with a minus sign
between them, and the letter behind a backslash, whatever it is. -/
def classLetters : List Char → List Char
  | '\\' :: c :: cs => c :: classLetters cs
  | first :: '-' :: last :: cs =>
    (List.range (last.toNat + 1 - first.toNat)).map (fun i => Char.ofNat (first.toNat + i))
      ++ classLetters cs
  | c :: cs => c :: classLetters cs
  | [] => []

def patternLetters : List Char := classLetters "0-9+\\-*/().".toList

def numberLetters : List Char := "0123456789.".toList

def symbolLetters : List Char := "+-*/()".toList

theorem isNumberChar_iff (c : Char) : isNumberChar c = true ↔ c ∈ numberLetters := by
  constructor
  · intro h
    rcases Bool.or_eq_true _ _ ▸ h with h | h
    · have hrange : 48 ≤ c.toNat ∧ c.toNat ≤ 57 := Char.isDigit_iff_toNat.mp h
      have hspan : Text.inSpans [(48, 57)] c = true := by simpa [Text.inSpans] using hrange
      have hmem : Char.ofNat c.toNat ∈ numberLetters :=
        Text.of_inSpans (P := fun n => Char.ofNat n ∈ numberLetters) (by decide) hspan
      rwa [Char.ofNat_toNat] at hmem
    · rw [beq_iff_eq.mp h]
      decide
  · have hall : numberLetters.all isNumberChar = true := by decide
    exact List.all_eq_true.mp hall c

theorem isSymbolChar_iff (c : Char) : isSymbolChar c = true ↔ c ∈ symbolLetters := by
  simp [isSymbolChar, symbolLetters, or_assoc]

theorem inAlphabet_iff (c : Char) :
    inAlphabet c = true ↔ c ∈ numberLetters ∨ c ∈ symbolLetters := by
  rw [← isNumberChar_iff, ← isSymbolChar_iff, inAlphabet, Bool.or_eq_true]

/-- The pattern lists the letters for numerals and symbols in another order. -/
theorem mem_patternLetters (c : Char) : c ∈ patternLetters ↔ inAlphabet c = true := by
  have hperm : patternLetters.Perm (numberLetters ++ symbolLetters) := by decide
  rw [inAlphabet_iff, hperm.mem_iff, List.mem_append]

/-! ## lines -/

/-- the words of a line, with nothing between them -/
def joined (line : List Char) : List Char := (Text.words line).flatten

theorem joined_eq (line : List Char) : joined line = Text.removeBlanks line := by
  unfold joined Text.words
  rw [List.flatten_filter_not_isEmpty]
  induction line with
  | nil => rfl
  | cons c line ih =>
    rw [Text.removeBlanks_cons, ← ih, Text.pieces]
    split
    · rfl
    · obtain ⟨piece, rest, hline⟩ :=
        List.exists_cons_of_ne_nil (Text.pieces_ne_nil Text.isBlank line)
      rw [hline]
      rfl

theorem isArithmetic_iff_all (line : List Char) :
    isArithmetic line = true ↔ ∀ c ∈ Text.removeBlanks line, inAlphabet c = true :=
  List.all_eq_true

/-- **The pattern takes the lines over the calculator's alphabet**, and no others. -/
theorem takes_line_iff (line : List Char) :
    (wholly patternLetters).rmatch (joined line) = true ↔ isArithmetic line = true := by
  rw [rmatch_wholly, joined_eq, isArithmetic_iff_all]
  simp only [mem_patternLetters]
  constructor
  · rintro ⟨front, hfront, hline | hline⟩
    · rwa [hline]
    · -- a line feed is a blank, so that none is left
      have hmem : '\n' ∈ Text.removeBlanks line := by rw [hline]; simp
      have hblank := (List.mem_filter.mp hmem).2
      exact absurd hblank (by decide)
  · intro h
    exact ⟨_, h, .inl rfl⟩

/-- **A line is arithmetic when no foreign character is reported.** -/
theorem isArithmetic_iff (line : List Char) : isArithmetic line = true ↔
    ∀ c index, tokenize line ≠ .error (.invalidCharacter c index) := by
  rw [isArithmetic_iff_all]
  rcases tokenize_cases line with ⟨front, c, rest, hline, -, hc, herror⟩ | ⟨hall, hsettled⟩
  · refine iff_of_false (fun h => ?_) fun h => h c _ herror
    rw [h c (by rw [hline]; simp)] at hc
    cases hc
  · refine iff_of_true hall fun c index h => ?_
    rcases hsettled with ⟨⟨ts, hts⟩, -⟩ | ⟨e, herror, _, _, _, _, _, hrefuses, -⟩
    · rw [hts] at h
      cases h
    · rw [herror] at h
      cases h
      cases hrefuses.kind

/-! ## refusals -/

/-- Only the tokens are refused for a foreign character; the later stages have other reasons. -/
theorem foreign_of_evaluate {text : List Char} {e : Error}
    (h : evaluate text = .error (.refused e)) (hkind : e.kind = .invalidCharacter) :
    tokenize text = .error e := by
  rw [evaluate_stages] at h
  cases hscan : tokenize text with
  | error e' =>
    rw [hscan] at h
    cases h
    rfl
  | ok ts =>
    have hscanned := (tokenize_eq_ok_iff.mp hscan).1
    rw [hscan] at h
    change (toPostfix ts).mapError .refused >>= evalPostfix = _ at h
    rcases toPostfix_outcome hscanned.known with ⟨herror, -⟩ | ⟨herror, -⟩ |
      ⟨⟨ps, horder⟩, -⟩
    · rw [herror] at h
      cases h
      cases hkind
    · rw [herror] at h
      cases h
      cases hkind
    · rw [horder] at h
      have hreads := reads_of_toPostfix hscanned.known horder
      obtain ⟨r, hr, hother⟩ := refused_of_evalPostfix (fun lexeme hl =>
        (hscanned.finite_value (hreads.mem _ hl).1).imp fun _ hx => hx.1) h
      cases hr
      rcases hother with hother | hother <;> cases hkind.symm.trans hother

/-- **An arithmetic line is not refused for a foreign character.** -/
theorem kind_ne_of_isArithmetic {text : List Char} (harith : isArithmetic text = true) {e : Error}
    (h : evaluate text = .error (.refused e)) : e.kind ≠ .invalidCharacter := by
  intro hkind
  have herror := foreign_of_evaluate h hkind
  cases e with
  | invalidCharacter c index => exact (isArithmetic_iff text).mp harith c index herror
  | _ => cases hkind

/-- The code tells what kind of refusal it is. -/
theorem Error.code_eq_iff (e : Error) :
    e.code = "INVALID_CHARACTER" ↔ e.kind = .invalidCharacter := by
  unfold Error.code
  cases e.kind <;> decide

theorem not_prefix_append {part s : String} (h : ¬ part.toList <+: s.toList)
    (h' : ¬ s.toList <+: part.toList) (t : String) : ¬ part.toList <+: (s ++ t).toList := by
  intro hpart
  rw [String.toList_append] at hpart
  exact (List.prefix_or_prefix_of_prefix hpart (List.prefix_append _ _)).elim h h'

/-- So does the beginning of the message. -/
theorem Error.prefix_message_iff (e : Error) :
    "Invalid character".toList <+: e.message.toList ↔ e.kind = .invalidCharacter := by
  cases e with
  | invalidCharacter c index =>
    refine iff_of_true ?_ rfl
    unfold message
    simp only [String.append_assoc]
    rw [String.toList_append]
    exact List.IsPrefix.trans (by decide) (List.prefix_append _ _)
  | invalidNumber lexeme =>
    refine iff_of_false ?_ nofun
    unfold message
    simp only [String.append_assoc]
    split <;> exact not_prefix_append (by decide) (by decide) _
  | numberTooLarge lexeme =>
    refine iff_of_false ?_ nofun
    unfold message
    simp only [String.append_assoc]
    exact not_prefix_append (by decide) (by decide) _
  | _ => decide

end AlgebraDesk.Calculator
