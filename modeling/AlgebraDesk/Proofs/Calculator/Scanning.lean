import AlgebraDesk.Proofs.Calculator.Grammar
import AlgebraDesk.Proofs.Calculator.Numerals
import AlgebraDesk.Proofs.Result

/-!
# What the scanner accepts

The tokens of a text spell the text without its blanks.  Which lists of tokens arise is a matter of
neighbours: a numeral does not follow a numeral, its sign stands only where an operand is due, and a
minus sign that is an operator stands only where none is.

* `Scanned`             the lists of tokens that arise, with what the place in front of them says;
* `scan_eq_ok_iff`      the scanner gives just these lists, each for the text that it spells;
* `tokenize_eq_ok_iff`  the same with blanks;
* `Spaced`              a text with blanks put in anywhere;
* `Derives.scanned`     the tokens of an expression arise.
-/

namespace AlgebraDesk.Calculator

/-- The flag says whether an operand is due, so that a minus sign belongs to a numeral. -/
inductive Scanned : Bool → List Token → Prop where
  | nil (due : Bool) : Scanned due []
  | number {due : Bool} {lexeme : List Char} {ts : List Token} :
    numberToken lexeme = .ok (.number lexeme) → (lexeme.head? = some '-' → due = true) →
      (∀ t ∈ ts.head?, t.isNumber = false) → Scanned false ts → Scanned due (.number lexeme :: ts)
  | symbol {due : Bool} {c : Char} {ts : List Token} :
    isSymbolChar c = true → (c = '-' → due = false) → Scanned (opensOperand (some c)) ts →
      Scanned due (.symbol [c] :: ts)

/-- what tokens look like without blanks between them -/
def spelled (ts : List Token) : List Char := ts.flatMap Token.lexeme

theorem spelled_nil : spelled [] = [] := rfl

theorem spelled_cons (t : Token) (ts : List Token) : spelled (t :: ts) = t.lexeme ++ spelled ts :=
  rfl

/-! ## single characters -/

theorem not_symbolChar_of_numberChar {c : Char} (h : isNumberChar c = true) :
    isSymbolChar c = false := by
  cases hs : isSymbolChar c with
  | false => rfl
  | true =>
    simp only [isSymbolChar, Bool.or_eq_true, beq_iff_eq] at hs
    rcases hs with ((((rfl | rfl) | rfl) | rfl) | rfl) | rfl <;> exact absurd h (by decide)

theorem numberToken_shape {cs : List Char} (h : numberToken cs = .ok (.number cs)) :
    ∃ c run, cs = c :: run ∧ (c = '-' ∨ isNumberChar c = true) ∧
      (∀ d ∈ run, isNumberChar d = true) ∧ opensOperand cs.getLast? = false :=
  ((isNumeral_iff cs).mp (numberToken_eq_ok.mp h).2.1).shape

namespace Scanned

/-- Every token is known, and a numeral was let through. -/
theorem mem {due : Bool} {ts : List Token} (h : Scanned due ts) : ∀ t ∈ ts, t.isKnown = true ∧
    ∀ lexeme, t = .number lexeme → numberToken lexeme = .ok (.number lexeme) := by
  induction h with
  | nil due => exact nofun
  | number hnum _ _ _ ih =>
    intro t ht
    rcases List.mem_cons.mp ht with rfl | ht
    · exact ⟨rfl, fun _ e => by cases e; exact hnum⟩
    · exact ih t ht
  | symbol hc _ _ ih =>
    intro t ht
    rcases List.mem_cons.mp ht with rfl | ht
    · exact ⟨hc, nofun⟩
    · exact ih t ht

theorem known {due : Bool} {ts : List Token} (h : Scanned due ts) : ∀ t ∈ ts, t.isKnown = true :=
  fun t ht => (h.mem t ht).1

theorem finite_value {due : Bool} {ts : List Token} (h : Scanned due ts) {lexeme : List Char}
    (hl : .number lexeme ∈ ts) : ∃ x, numeralValue lexeme = .ok x ∧ x.isFinite = true :=
  (hasFiniteValue_iff lexeme).mp (numberToken_eq_ok.mp ((h.mem _ hl).2 lexeme rfl)).2.2

/-- Where no operand is due, a text that does not begin with a character of a number does not begin
with a numeral. -/
theorem head_symbol {ts : List Token} (h : Scanned false ts)
    (hstop : ∀ c ∈ (spelled ts).head?, isNumberChar c = false) :
    ∀ t ∈ ts.head?, t.isNumber = false := by
  intro t ht
  cases h with
  | nil => cases ht
  | symbol _ _ _ =>
    cases ht
    rfl
  | number hnum hsign _ _ =>
    obtain ⟨c, run, rfl, hc, _, _⟩ := numberToken_shape hnum
    rcases hc with rfl | hc
    · exact absurd (hsign rfl) Bool.false_ne_true
    · exact absurd hc (by rw [hstop c rfl]; exact Bool.false_ne_true)

/-- Behind a numeral the text does not go on with a character of a number. -/
theorem head_spelled {ts : List Token} (h : Scanned false ts)
    (hfirst : ∀ t ∈ ts.head?, t.isNumber = false) :
    ∀ c ∈ (spelled ts).head?, isNumberChar c = false := by
  intro c hc
  cases h with
  | nil => cases hc
  | number _ _ _ _ => exact absurd (hfirst _ rfl) (by simp [Token.isNumber])
  | symbol hsym _ _ =>
    cases hc
    cases hn : isNumberChar c with
    | false => rfl
    | true => exact absurd hsym (by rw [not_symbolChar_of_numberChar hn]; exact Bool.false_ne_true)

end Scanned

/-! ## scanning -/

/-- A numeral and what the scan of the rest gives. -/
theorem scanned_numeral {before : Option Char} {c : Char} {rest : List Char} {ts : List Token}
    (hc : c = '-' → opensOperand before = true)
    (ih : ∀ us,
      scan (c :: rest.takeWhile isNumberChar).getLast? (rest.dropWhile isNumberChar) = .ok us →
        Scanned (opensOperand (c :: rest.takeWhile isNumberChar).getLast?) us ∧
          rest.dropWhile isNumberChar = spelled us)
    (h : (do
      let token ← numberToken (c :: rest.takeWhile isNumberChar)
      return token :: (← scan (c :: rest.takeWhile isNumberChar).getLast?
        (rest.dropWhile isNumberChar)) : Except Error (List Token)) = .ok ts) :
    Scanned (opensOperand before) ts ∧ c :: rest = spelled ts := by
  obtain ⟨token, htoken, h⟩ := bind_eq_ok.mp h
  obtain ⟨us, hus, h⟩ := bind_eq_ok.mp h
  cases h
  obtain rfl := (numberToken_eq_ok.mp htoken).1
  obtain ⟨hscanned, hspelled⟩ := ih us hus
  obtain ⟨_, _, _, _, _, hlast⟩ := numberToken_shape htoken
  rw [hlast] at hscanned
  refine ⟨.number htoken (fun e => hc (Option.some.inj e)) (hscanned.head_symbol ?_) hscanned, ?_⟩
  · rw [← hspelled]
    exact head_dropWhile isNumberChar rest
  · rw [spelled_cons, ← hspelled, Token.lexeme_number, List.cons_append,
      List.takeWhile_append_dropWhile]

theorem scanned_of_scan (before : Option Char) (cs : List Char) : ∀ ts,
    scan before cs = .ok ts → Scanned (opensOperand before) ts ∧ cs = spelled ts := by
  induction before, cs using scan.induct with
  | case1 before =>
    intro ts h
    rw [scan] at h
    cases h
    exact ⟨.nil _, rfl⟩
  | case2 before c rest run after hsign ih =>
    intro ts h
    rw [scan, if_pos hsign] at h
    exact scanned_numeral (fun _ => (Bool.and_eq_true _ _ ▸ hsign).2) ih h
  | case3 before c rest hsign hsym ih =>
    intro ts h
    rw [scan, if_neg hsign, if_pos hsym] at h
    obtain ⟨us, hus, h⟩ := bind_eq_ok.mp h
    cases h
    obtain ⟨hscanned, hspelled⟩ := ih us hus
    refine ⟨.symbol hsym ?_ hscanned, by rw [hspelled]; rfl⟩
    rintro rfl
    simpa using hsign
  | case4 before c rest run after hsign hsym ih =>
    intro ts h
    rw [scan, if_neg hsign, if_neg hsym] at h
    exact scanned_numeral (fun e => absurd (by rw [e]; decide) hsym) ih h

theorem scan_of_scanned {due : Bool} {ts : List Token} (h : Scanned due ts) :
    ∀ before, opensOperand before = due → scan before (spelled ts) = .ok ts := by
  induction h with
  | nil due =>
    intro before _
    rw [spelled_nil, scan]
  | @number due lexeme ts hnum hsign hfirst hts ih =>
    rintro before rfl
    have hstop := hts.head_spelled hfirst
    obtain ⟨c, run, rfl, hc, hrun, hlast⟩ := numberToken_shape hnum
    rw [spelled_cons, Token.lexeme_number, List.cons_append, scan]
    simp only [takeWhile_append_stop hrun hstop, dropWhile_append_stop hrun hstop, hnum, ih _ hlast]
    -- either branch for a numeral is taken, the one for a symbol is not
    rcases hc with rfl | hc
    · rw [hsign rfl]
      rfl
    · rw [not_symbolChar_of_numberChar hc]
      split <;> rfl
  | @symbol due c ts hsym hminus hts ih =>
    rintro before rfl
    rw [spelled_cons, Token.lexeme_symbol, List.cons_append, List.nil_append, scan]
    have hsign : ¬ (c == '-' && opensOperand before) = true := by
      rintro h
      rw [Bool.and_eq_true, beq_iff_eq] at h
      rw [hminus h.1] at h
      exact Bool.false_ne_true h.2
    simp only [if_neg hsign, if_pos hsym, ih _ rfl]
    rfl

theorem scan_eq_ok_iff {before : Option Char} {cs : List Char} {ts : List Token} :
    scan before cs = .ok ts ↔ Scanned (opensOperand before) ts ∧ cs = spelled ts := by
  constructor
  · exact scanned_of_scan before cs ts
  · rintro ⟨h, rfl⟩
    exact scan_of_scanned h before rfl

/-! ## blanks and foreign characters -/

theorem firstForeign_eq_none {cs : List Char} :
    firstForeign? cs = none ↔ ∀ c ∈ cs, inAlphabet c = true := by
  unfold firstForeign?
  rw [List.find?_eq_none]
  constructor
  · intro h c hc
    obtain ⟨i, hi, rfl⟩ := List.getElem_of_mem hc
    simpa using h (cs[i], i) (List.mem_zipIdx_iff_getElem?.mpr (List.getElem?_eq_getElem hi))
  · intro h p hp
    simpa using h p.1 (List.fst_mem_of_mem_zipIdx hp)

theorem Scanned.inAlphabet {due : Bool} {ts : List Token} (h : Scanned due ts) :
    ∀ c ∈ spelled ts, inAlphabet c = true := by
  induction h with
  | nil => exact nofun
  | number hnum _ _ _ ih =>
    intro d hd
    rcases List.mem_append.mp hd with hd | hd
    · obtain ⟨c, run, rfl, hc, hrun, _⟩ := numberToken_shape hnum
      unfold Calculator.inAlphabet
      rcases List.mem_cons.mp hd with rfl | hd
      · rcases hc with rfl | hc
        · decide
        · rw [hc, Bool.true_or]
      · rw [hrun d hd, Bool.true_or]
    · exact ih d hd
  | symbol hc _ _ ih =>
    intro d hd
    rcases List.mem_append.mp hd with hd | hd
    · obtain rfl := List.mem_singleton.mp hd
      unfold Calculator.inAlphabet
      rw [hc, Bool.or_true]
    · exact ih d hd

theorem tokenize_of_none {text : List Char}
    (h : firstForeign? (Text.removeBlanks text) = none) :
    tokenize text = scan none (Text.removeBlanks text) := by
  simp only [tokenize, h]

theorem tokenize_of_some {text : List Char} {p : Char × Nat}
    (h : firstForeign? (Text.removeBlanks text) = some p) :
    tokenize text = .error (.invalidCharacter p.1 p.2) := by
  simp only [tokenize, h]

theorem tokenize_eq_ok_iff {text : List Char} {ts : List Token} :
    tokenize text = .ok ts ↔ Scanned true ts ∧ Text.removeBlanks text = spelled ts := by
  cases hforeign : firstForeign? (Text.removeBlanks text) with
  | none =>
    rw [tokenize_of_none hforeign]
    exact scan_eq_ok_iff
  | some p =>
    rw [tokenize_of_some hforeign]
    constructor
    · intro h
      cases h
    · rintro ⟨hts, htext⟩
      rw [htext, firstForeign_eq_none.mpr hts.inAlphabet] at hforeign
      cases hforeign

/-- `Spaced cs text`: the text is `cs` with blanks put in, before, behind and between its
characters. -/
inductive Spaced : List Char → List Char → Prop where
  | nil : Spaced [] []
  | blank {b : Char} {cs text : List Char} :
    Text.isBlank b = true → Spaced cs text → Spaced cs (b :: text)
  | keep (c : Char) {cs text : List Char} : Spaced cs text → Spaced (c :: cs) (c :: text)

theorem Spaced.removeBlanks {cs text : List Char} (h : Spaced cs text) :
    Text.removeBlanks text = Text.removeBlanks cs := by
  induction h with
  | nil => rfl
  | blank hb _ ih => rw [Text.removeBlanks_cons, if_pos hb, ih]
  | keep c _ ih => rw [Text.removeBlanks_cons, Text.removeBlanks_cons, ih]

/-- Every text is its other characters with its blanks put in. -/
theorem spaced_removeBlanks (text : List Char) : Spaced (Text.removeBlanks text) text := by
  induction text with
  | nil => exact .nil
  | cons c text ih =>
    rw [Text.removeBlanks_cons]
    split
    · rename_i hc
      exact .blank hc ih
    · exact .keep c ih

theorem isBlank_of_inAlphabet {c : Char} (h : inAlphabet c = true) : Text.isBlank c = false := by
  rcases Bool.or_eq_true _ _ ▸ h with h | h
  · unfold isNumberChar at h
    rcases Bool.or_eq_true _ _ ▸ h with h | h
    · exact Decimal.isBlank_of_isDigit (Decimal.isDigit_of_ascii h)
    · rw [beq_iff_eq.mp h]
      decide
  · simp only [isSymbolChar, Bool.or_eq_true, beq_iff_eq] at h
    rcases h with ((((rfl | rfl) | rfl) | rfl) | rfl) | rfl <;> decide

/-- Blanks do not count. -/
theorem tokenize_spaced {ts : List Token} {text : List Char} (hts : Scanned true ts)
    (htext : Spaced (spelled ts) text) : tokenize text = .ok ts := by
  refine tokenize_eq_ok_iff.mpr ⟨hts, ?_⟩
  rw [htext.removeBlanks]
  unfold Text.removeBlanks
  rw [List.filter_eq_self]
  intro c hc
  rw [isBlank_of_inAlphabet (hts.inAlphabet c hc)]
  rfl

/-! ## expressions -/

/-- The tokens of an expression arise where an operand is due, when what comes behind does where
none is. -/
theorem Derives.scanned_append {level : Level} {ts : List Token} {t : Tree}
    (h : Derives level ts t) :
    (∀ lexeme, .number lexeme ∈ ts → numberToken lexeme = .ok (.number lexeme)) →
      ∀ rest, (∀ u ∈ rest.head?, u.isNumber = false) → Scanned false rest →
        Scanned true (ts ++ rest) := by
  induction h with
  | number lexeme =>
    intro hnum rest hfirst hrest
    exact .number (hnum lexeme List.mem_cons_self) (fun _ => rfl) hfirst hrest
  | @group ts t _ ih =>
    intro hnum rest _ hrest
    have hclose : Scanned false (closing :: rest) := .symbol (by decide) nofun hrest
    rw [List.cons_append, List.append_assoc]
    refine .symbol (by decide) (by decide) (ih ?_ _ ?_ hclose)
    · exact fun l hl => hnum l (List.mem_cons_of_mem _ (List.mem_append_left _ hl))
    · exact fun u hu => by cases hu; rfl
  | tighter _ ih => exact ih
  | @node op ls rs l r _ _ ihl ihr =>
    intro hnum rest hfirst hrest
    have hright : Scanned true (rs ++ rest) := by
      refine ihr (fun l hl => hnum l ?_) rest hfirst hrest
      exact List.mem_append_right _ (List.mem_cons_of_mem _ hl)
    have hop : Scanned false (op.symbol :: (rs ++ rest)) := by
      cases op <;> exact .symbol (by decide) (fun _ => rfl) hright
    rw [List.append_assoc, List.cons_append]
    refine ihl (fun l hl => hnum l (List.mem_append_left _ hl)) _ ?_ hop
    exact fun u hu => by cases hu; rfl

theorem Derives.scanned {ts : List Token} {t : Tree} (h : Derives .sum ts t)
    (hnum : ∀ lexeme, .number lexeme ∈ ts → numberToken lexeme = .ok (.number lexeme)) :
    Scanned true ts := by
  have hts := h.scanned_append hnum [] nofun (.nil false)
  rwa [List.append_nil] at hts

end AlgebraDesk.Calculator
