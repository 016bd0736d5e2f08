import AlgebraDesk.Proofs.Calculator.Scanning
import Mathlib.Data.List.Basic

/-!
# Runs of digits and points

What the scanner makes of a text can be told without scanning it.  A run of digits and points that
cannot be extended is a numeral, together with the minus sign in front of it when that sign stands
where an operand is due; and such a sign needs a run behind it.  The text becomes tokens when it
has no foreign character and all its numerals are proper, and otherwise the first foreign character
is reported or, when there is none, the leftmost numeral that is not proper.

The scan stands at a place of the text: what is in front of it is `pre`, and the numerals that
begin at that place or behind it are still to be checked (`Settled`).  One step moves it over a
numeral or over a symbol, and no numeral begins inside of either.

* `IsRun`, `trailingSign`   the runs, and the sign that may stand in front of one;
* `NumeralAt`               the numerals of a text, a bare sign among them;
* `IsProper`, `Refuses`     which are let through, and how the others are refused;
* `scan_settled`            what the scan of a text comes to;
* `tokenize_settled`        the same for every text.
-/

namespace AlgebraDesk.Calculator

/-! ## numerals of a text -/

/-- digits and points that cannot be extended on either side -/
structure IsRun (before run after : List Char) : Prop where
  ne_nil : run ≠ []
  chars : ∀ c ∈ run, isNumberChar c = true
  start : ∀ c ∈ before.getLast?, isNumberChar c = false
  stop : ∀ c ∈ after.head?, isNumberChar c = false

/-- the minus sign at the end of a text, when it stands where an operand is due -/
def trailingSign (before : List Char) : List Char :=
  if before.getLast? = some '-' ∧ opensOperand before.dropLast.getLast? = true then ['-'] else []

/-- A sign with the run behind it, which may be empty, or a run without a sign. -/
inductive NumeralAt (before : List Char) : List Char → List Char → Prop where
  | signed {run after : List Char} : opensOperand before.getLast? = true →
    (∀ c ∈ run, isNumberChar c = true) → (∀ c ∈ after.head?, isNumberChar c = false) →
      NumeralAt before ('-' :: run) after
  | plain {run after : List Char} : IsRun before run after → trailingSign before = [] →
      NumeralAt before run after

/-- what becomes a token -/
def IsProper (lexeme : List Char) : Prop :=
  IsLiteral lexeme ∧ ∃ x, numeralValue lexeme = .ok x ∧ x.isFinite = true

/-- What does not has another form, or a value that is too large. -/
inductive Refuses (lexeme : List Char) : Error → Prop where
  | form : ¬ IsLiteral lexeme → Refuses lexeme (.invalidNumber lexeme)
  | large {x : Float} : IsLiteral lexeme → numeralValue lexeme = .ok x → x.isFinite = false →
      Refuses lexeme (.numberTooLarge lexeme)

theorem trailingSign_concat (before : List Char) (c : Char) : trailingSign (before ++ [c])
    = if c = '-' ∧ opensOperand before.getLast? = true then ['-'] else [] := by
  simp only [trailingSign, List.getLast?_concat, List.dropLast_concat, Option.some.injEq]

theorem trailingSign_cases (before : List Char) : trailingSign before = [] ∨
    ∃ front, before = front ++ ['-'] ∧ opensOperand front.getLast? = true ∧
      trailingSign before = ['-'] := by
  rcases List.eq_nil_or_concat before with rfl | ⟨front, c, rfl⟩
  · exact .inl rfl
  · rw [List.concat_eq_append, trailingSign_concat]
    split
    · rename_i h
      exact .inr ⟨front, by rw [h.1], h.2, rfl⟩
    · exact .inl rfl

theorem Refuses.not_proper {lexeme : List Char} {e : Error} (h : Refuses lexeme e) :
    ¬ IsProper lexeme := by
  rintro ⟨hform, x, hx, hfin⟩
  cases h with
  | form h => exact h hform
  | large _ hy hinf =>
    obtain rfl := Except.ok.inj (hx.symm.trans hy)
    exact Bool.false_ne_true (hinf.symm.trans hfin)

theorem Refuses.kind {lexeme : List Char} {e : Error} (h : Refuses lexeme e) :
    e.kind = .invalidNumberFormat := by
  cases h <;> rfl

/-- A numeral becomes a token or is refused. -/
theorem numberToken_cases (lexeme : List Char) :
    (numberToken lexeme = .ok (.number lexeme) ∧ IsProper lexeme) ∨
      ∃ e, numberToken lexeme = .error e ∧ Refuses lexeme e := by
  unfold numberToken
  cases hform : isNumeral lexeme with
  | false =>
    refine .inr ⟨_, rfl, .form fun h => ?_⟩
    rw [(isNumeral_iff lexeme).mpr h] at hform
    cases hform
  | true =>
    have hlit : IsLiteral lexeme := (isNumeral_iff lexeme).mp hform
    obtain ⟨x, hx⟩ := exists_numeralValue hform
    unfold hasFiniteValue IsProper
    simp only [hx]
    cases hfin : x.isFinite with
    | false => exact .inr ⟨_, rfl, .large hlit hx hfin⟩
    | true => exact .inl ⟨rfl, hlit, x, rfl, hfin⟩

/-! ## one numeral and the next -/

namespace NumeralAt

variable {pre numeral after lexeme rest : List Char}

theorem ne_nil (h : NumeralAt pre numeral after) : numeral ≠ [] := by
  cases h with
  | signed _ _ _ => exact List.cons_ne_nil _ _
  | plain h _ => exact h.ne_nil

theorem stop (h : NumeralAt pre numeral after) : ∀ c ∈ after.head?, isNumberChar c = false := by
  cases h with
  | signed _ _ h => exact h
  | plain h _ => exact h.stop

/-- A first character and a run behind it. -/
theorem shape (h : NumeralAt pre numeral after) : ∃ c run, numeral = c :: run ∧
    (c = '-' ∧ opensOperand pre.getLast? = true ∨
      isNumberChar c = true ∧ IsRun pre numeral after ∧ trailingSign pre = []) ∧
    ∀ d ∈ run, isNumberChar d = true := by
  cases h with
  | signed hopen hrun _ => exact ⟨'-', _, rfl, .inl ⟨rfl, hopen⟩, hrun⟩
  | plain h hsign =>
    obtain ⟨c, run, rfl⟩ := List.exists_cons_of_ne_nil h.ne_nil
    exact ⟨c, run, rfl, .inr ⟨h.chars c List.mem_cons_self, h, hsign⟩,
      fun d hd => h.chars d (List.mem_cons_of_mem _ hd)⟩

/-- At one place there is one numeral. -/
theorem unique (h : NumeralAt pre numeral after) (h' : NumeralAt pre lexeme rest)
    (e : numeral ++ after = lexeme ++ rest) : lexeme = numeral ∧ rest = after := by
  obtain ⟨c, run, rfl, -, hrun⟩ := h.shape
  obtain ⟨d, run', rfl, -, hrun'⟩ := h'.shape
  obtain ⟨rfl, hsame⟩ : c = d ∧ run ++ after = run' ++ rest := List.cons.inj e
  have htake := takeWhile_append_stop hrun h.stop
  have hdrop := dropWhile_append_stop hrun h.stop
  rw [hsame] at htake hdrop
  rw [takeWhile_append_stop hrun' h'.stop] at htake
  rw [dropWhile_append_stop hrun' h'.stop] at hdrop
  exact ⟨congrArg _ htake, hdrop⟩

/-- No numeral begins inside another one. -/
theorem not_inside {front back : List Char} (h : NumeralAt pre (front ++ back) after)
    (hfront : front ≠ []) (hback : back ≠ []) (h' : NumeralAt (pre ++ front) lexeme rest)
    (e : lexeme ++ rest = back ++ after) : False := by
  obtain ⟨c, run, hcons, hfirst, hrun⟩ := h.shape
  obtain ⟨b, front, rfl⟩ := List.exists_cons_of_ne_nil hfront
  obtain ⟨d, back, rfl⟩ := List.exists_cons_of_ne_nil hback
  obtain ⟨rfl, hsplit⟩ := List.cons.inj hcons
  have hd : isNumberChar d = true := hrun d (by rw [← hsplit]; simp)
  obtain ⟨d', run', rfl, hfirst', -⟩ := h'.shape
  obtain ⟨rfl, -⟩ := List.cons.inj e
  -- it would begin with a digit or a point, and so without a sign
  rcases hfirst' with ⟨rfl, -⟩ | ⟨-, hrun', hsign'⟩
  · exact absurd hd (by decide)
  rcases List.eq_nil_or_concat front with rfl | ⟨front, f, rfl⟩
  · rcases hfirst with ⟨rfl, hopen⟩ | ⟨hb, -, -⟩
    · rw [trailingSign_concat, if_pos ⟨rfl, hopen⟩] at hsign'
      cases hsign'
    · have hlast := hrun'.start b (by rw [List.getLast?_concat]; rfl)
      rw [hb] at hlast
      cases hlast
  · have hf : isNumberChar f = true := hrun f (by rw [← hsplit]; simp)
    have hlast := hrun'.start f (by
      rw [List.concat_eq_append, ← List.cons_append, ← List.append_assoc, List.getLast?_concat]
      rfl)
    rw [hf] at hlast
    cases hlast

/-- Where a numeral stands, the others begin behind it. -/
theorem others {front : List Char} (h : NumeralAt pre numeral after)
    (h' : NumeralAt (pre ++ front) lexeme rest)
    (e : numeral ++ after = front ++ (lexeme ++ rest)) :
    (front = [] ∧ lexeme = numeral) ∨
      ∃ between, front = numeral ++ between ∧ after = between ++ (lexeme ++ rest) := by
  rcases List.append_eq_append_iff.mp e with ⟨between, rfl, hafter⟩ | ⟨back, rfl, hback⟩
  · exact .inr ⟨between, rfl, hafter⟩
  by_cases hnil : back = []
  · subst hnil
    exact .inr ⟨[], by simp, hback.symm⟩
  by_cases hfront : front = []
  · subst hfront
    rw [List.append_nil] at h'
    exact .inl ⟨rfl, (h.unique h' hback.symm).1⟩
  · exact (h.not_inside hfront hnil h' hback).elim

/-- Where an operator or a parenthesis stands, all numerals begin behind it. -/
theorem behind_symbol {c : Char} {front : List Char} (hsym : isSymbolChar c = true)
    (hsign : ¬ (c = '-' ∧ opensOperand pre.getLast? = true))
    (h' : NumeralAt (pre ++ front) lexeme rest) (e : c :: after = front ++ (lexeme ++ rest)) :
    ∃ between, front = c :: between ∧ after = between ++ (lexeme ++ rest) := by
  cases front with
  | cons b between =>
    obtain ⟨rfl, hafter⟩ : c = b ∧ after = between ++ (lexeme ++ rest) := List.cons.inj e
    exact ⟨between, rfl, hafter⟩
  | nil =>
    rw [List.append_nil] at h'
    obtain ⟨d, run, rfl, hfirst, -⟩ := h'.shape
    obtain ⟨rfl, -⟩ := List.cons.inj e
    rcases hfirst with hminus | ⟨hd, -, -⟩
    · exact absurd hminus hsign
    · rw [not_symbolChar_of_numberChar hd] at hsym
      cases hsym

end NumeralAt

/-! ## the scan -/

/-- The leftmost numeral behind `pre` that is not proper, with its refusal. -/
def FirstRefused (pre cs : List Char) (e : Error) : Prop :=
  ∃ front lexeme rest, cs = front ++ (lexeme ++ rest) ∧ NumeralAt (pre ++ front) lexeme rest ∧
    Refuses lexeme e ∧
    ∀ front' lexeme' rest', cs = front' ++ (lexeme' ++ rest') →
      NumeralAt (pre ++ front') lexeme' rest' → front'.length < front.length → IsProper lexeme'

/-- A result that agrees with the numerals behind `pre`. -/
def Settled (pre cs : List Char) (result : Except Error (List Token)) : Prop :=
  ((∃ ts, result = .ok ts) ∧ ∀ front lexeme rest, cs = front ++ (lexeme ++ rest) →
    NumeralAt (pre ++ front) lexeme rest → IsProper lexeme) ∨
  ∃ e, result = .error e ∧ FirstRefused pre cs e

theorem settled_nil (pre : List Char) : Settled pre [] (.ok []) := by
  refine .inl ⟨⟨[], rfl⟩, fun front lexeme rest e h => ?_⟩
  have hnil : lexeme = [] := (List.append_eq_nil_iff.mp (List.append_eq_nil_iff.mp e.symm).2).1
  exact absurd hnil h.ne_nil

/-- A part of the text is passed when a numeral that begins in it begins with it and is proper. -/
theorem Settled.pass {pre part cs : List Char} {result : Except Error (List Token)} (t : Token)
    (hpart : ∀ front lexeme rest, part ++ cs = front ++ (lexeme ++ rest) →
      NumeralAt (pre ++ front) lexeme rest → IsProper lexeme ∨
        ∃ between, front = part ++ between ∧ cs = between ++ (lexeme ++ rest))
    (h : Settled (pre ++ part) cs result) :
    Settled pre (part ++ cs) (result >>= fun ts => .ok (t :: ts)) := by
  rcases h with ⟨⟨ts, rfl⟩, hall⟩ | ⟨e, rfl, front, lexeme, rest, rfl, hat, hrefuses, hfirst⟩
  · refine .inl ⟨⟨t :: ts, rfl⟩, fun front lexeme rest e hat => ?_⟩
    rcases hpart front lexeme rest e hat with hproper | ⟨between, rfl, hcs⟩
    · exact hproper
    · exact hall between lexeme rest hcs (by rwa [List.append_assoc])
  · refine .inr ⟨e, rfl, part ++ front, lexeme, rest, by rw [List.append_assoc], ?_, hrefuses, ?_⟩
    · rwa [← List.append_assoc]
    · intro front' lexeme' rest' e' hat' hlt
      rcases hpart front' lexeme' rest' e' hat' with hproper | ⟨between, rfl, hcs⟩
      · exact hproper
      · refine hfirst between lexeme' rest' hcs (by rwa [List.append_assoc]) ?_
        simpa using hlt

/-- **One numeral, then the rest.** -/
theorem Settled.numeral {pre numeral after : List Char} {result : Except Error (List Token)}
    (hat : NumeralAt pre numeral after) (h : Settled (pre ++ numeral) after result) :
    Settled pre (numeral ++ after) (do
      let token ← numberToken numeral
      return token :: (← result)) := by
  rcases numberToken_cases numeral with ⟨hok, hproper⟩ | ⟨e, herror, hrefuses⟩
  · rw [hok]
    refine h.pass (.number numeral) fun front lexeme rest e hat' => ?_
    rcases hat.others hat' e with ⟨-, rfl⟩ | hbehind
    · exact .inl hproper
    · exact .inr hbehind
  · rw [herror]
    refine .inr ⟨e, rfl, [], numeral, after, rfl, by rwa [List.append_nil], hrefuses, ?_⟩
    exact fun _ _ _ _ _ hlt => absurd hlt (Nat.not_lt_zero _)

/-- **One symbol, then the rest.** -/
theorem Settled.symbol {pre cs : List Char} {c : Char} {result : Except Error (List Token)}
    (hsym : isSymbolChar c = true) (hsign : ¬ (c = '-' ∧ opensOperand pre.getLast? = true))
    (h : Settled (pre ++ [c]) cs result) :
    Settled pre (c :: cs) (do return .symbol [c] :: (← result)) :=
  h.pass (.symbol [c]) fun _ _ _ e hat => .inr (hat.behind_symbol hsym hsign e)

/-- A digit or a point that comes next begins a run, and there is no sign in front of it. -/
def Fresh (pre cs : List Char) : Prop := ∀ c ∈ cs.head?, isNumberChar c = true →
  (∀ d ∈ pre.getLast?, isNumberChar d = false) ∧ trailingSign pre = []

theorem fresh_nil (cs : List Char) : Fresh [] cs := fun _ _ _ => ⟨nofun, rfl⟩

theorem fresh_symbol {pre cs : List Char} {c : Char} (hsym : isSymbolChar c = true)
    (hsign : ¬ (c = '-' ∧ opensOperand pre.getLast? = true)) : Fresh (pre ++ [c]) cs := by
  intro _ _ _
  constructor
  · intro d hd
    rw [List.getLast?_concat] at hd
    cases hd
    cases hc : isNumberChar c with
    | false => rfl
    | true =>
      rw [not_symbolChar_of_numberChar hc] at hsym
      cases hsym
  · rw [trailingSign_concat, if_neg hsign]

theorem fresh_dropWhile (pre cs : List Char) : Fresh pre (cs.dropWhile isNumberChar) := by
  intro c hc hn
  rw [head_dropWhile isNumberChar cs c hc] at hn
  cases hn

/-- **What the scan comes to**: the tokens when all numerals are proper, and otherwise the refusal
of the leftmost that is not. -/
theorem scan_settled (before : Option Char) (cs : List Char) :
    ∀ pre : List Char, pre.getLast? = before → Fresh pre cs →
      (∀ c ∈ cs, inAlphabet c = true) → Settled pre cs (scan before cs) := by
  induction before, cs using scan.induct with
  | case1 before =>
    intro pre _ _ _
    rw [scan]
    exact settled_nil pre
  | case2 before c rest run after hsign ih =>
    rintro pre rfl _ halpha
    rw [scan, if_pos hsign]
    have hsplit : c :: rest = (c :: run) ++ after := by
      rw [List.cons_append, List.takeWhile_append_dropWhile]
    rw [hsplit] at halpha ⊢
    obtain ⟨hc, hopen⟩ := Bool.and_eq_true _ _ ▸ hsign
    have hrest : Settled (pre ++ c :: run) after (scan (c :: run).getLast? after) :=
      ih _ (List.getLast?_append_of_ne_nil _ (List.cons_ne_nil _ _)) (fresh_dropWhile _ _)
        (fun d hd => halpha d (List.mem_append_right _ hd))
    refine Settled.numeral ?_ hrest
    rw [beq_iff_eq.mp hc]
    exact .signed hopen (List.all_eq_true.mp List.all_takeWhile) (head_dropWhile _ _)
  | case3 before c rest hsign hsym ih =>
    rintro pre rfl _ halpha
    rw [scan, if_neg hsign, if_pos hsym]
    have hsign' : ¬ (c = '-' ∧ opensOperand pre.getLast? = true) := by simpa using hsign
    exact (ih _ List.getLast?_concat (fresh_symbol hsym hsign')
      (fun d hd => halpha d (List.mem_cons_of_mem _ hd))).symbol hsym hsign'
  | case4 before c rest run after hsign hsym ih =>
    rintro pre rfl hfresh halpha
    rw [scan, if_neg hsign, if_neg hsym]
    have hc : isNumberChar c = true := by
      have h := halpha c List.mem_cons_self
      simpa [inAlphabet, hsym] using h
    obtain ⟨hstart, htrailing⟩ := hfresh c rfl hc
    have hsplit : c :: rest = (c :: run) ++ after := by
      rw [List.cons_append, List.takeWhile_append_dropWhile]
    rw [hsplit] at halpha ⊢
    have hrest : Settled (pre ++ c :: run) after (scan (c :: run).getLast? after) :=
      ih _ (List.getLast?_append_of_ne_nil _ (List.cons_ne_nil _ _)) (fresh_dropWhile _ _)
        (fun d hd => halpha d (List.mem_append_right _ hd))
    refine Settled.numeral (.plain ⟨List.cons_ne_nil _ _, ?_, hstart, head_dropWhile _ _⟩ htrailing)
      hrest
    exact List.forall_mem_cons.mpr ⟨hc, List.all_eq_true.mp List.all_takeWhile⟩

/-! ## runs and signs -/

/-- The numerals of a text are proper when its runs are, each with its sign, and no sign is bare. -/
theorem proper_iff {cs : List Char} :
    (∀ front lexeme rest, cs = front ++ (lexeme ++ rest) → NumeralAt front lexeme rest →
      IsProper lexeme) ↔
    (∀ before run after, cs = before ++ (run ++ after) → IsRun before run after →
      IsProper (trailingSign before ++ run)) ∧
    ∀ before after, cs = before ++ '-' :: after → opensOperand before.getLast? = true →
      ∃ c ∈ after.head?, isNumberChar c = true := by
  constructor
  · intro h
    constructor
    · intro before run after e hrun
      rcases trailingSign_cases before with hsign | ⟨front, rfl, hopen, hsign⟩
      · rw [hsign]
        exact h before run after e (.plain hrun hsign)
      · rw [hsign]
        rw [List.append_assoc] at e
        exact h front ('-' :: run) after e (.signed hopen hrun.chars hrun.stop)
    · intro before after e hopen
      have hsplit : after = after.takeWhile isNumberChar ++ after.dropWhile isNumberChar :=
        List.takeWhile_append_dropWhile.symm
      have hproper : IsProper ('-' :: after.takeWhile isNumberChar) := by
        refine h before _ (after.dropWhile isNumberChar) ?_
          (.signed hopen (List.all_eq_true.mp List.all_takeWhile) (head_dropWhile _ _))
        rw [List.cons_append, ← hsplit]
        exact e
      cases after with
      | nil => exact absurd ((isNumeral_iff _).mpr hproper.1) (by decide)
      | cons c after =>
        refine ⟨c, rfl, ?_⟩
        by_contra hc
        rw [List.takeWhile_cons_of_neg hc] at hproper
        exact absurd ((isNumeral_iff _).mpr hproper.1) (by decide)
  · rintro ⟨hruns, hsigns⟩ front lexeme rest e hat
    cases hat with
    | plain hrun hsign =>
      have h := hruns front lexeme rest e hrun
      rwa [hsign] at h
    | @signed run _ hopen hchars hstop =>
      obtain ⟨c, hc, hn⟩ := hsigns front (run ++ rest) e hopen
      have hne : run ≠ [] := by
        rintro rfl
        rw [hstop c hc] at hn
        cases hn
      have h := hruns (front ++ ['-']) run rest (by rw [e, List.append_assoc]; rfl)
        ⟨hne, hchars, fun d hd => by rw [List.getLast?_concat] at hd; cases hd; decide, hstop⟩
      rwa [trailingSign_concat, if_pos ⟨rfl, hopen⟩] at h

/-! ## what the tokens are -/

namespace Scanned

/-- What is due behind some tokens is told by the last character that they spell. -/
theorem behind {us vs : List Token} {before : Option Char}
    (h : Scanned (opensOperand before) (us ++ vs)) :
    Scanned (opensOperand ((spelled us).getLast?.or before)) vs := by
  induction us generalizing before with
  | nil => exact h
  | cons t us ih =>
    have hlast : ∃ c, t.lexeme.getLast? = some c ∧ Scanned (opensOperand (some c)) (us ++ vs) := by
      cases h with
      | @number _ lexeme _ hnum _ _ h =>
        obtain ⟨c, run, rfl, -, -, hlast⟩ := numberToken_shape hnum
        refine ⟨_, List.getLast?_eq_some_getLast (List.cons_ne_nil c run), ?_⟩
        rw [← List.getLast?_eq_some_getLast, hlast]
        exact h
      | @symbol _ c _ _ _ h => exact ⟨c, rfl, h⟩
    obtain ⟨c, hc, h⟩ := hlast
    rw [spelled_cons, List.getLast?_append, hc, Option.or_assoc]
    exact ih h

theorem behind_start {us vs : List Token} (h : Scanned true (us ++ vs)) :
    Scanned (opensOperand (spelled us).getLast?) vs := by
  have hvs : Scanned (opensOperand ((spelled us).getLast?.or none)) vs :=
    behind (show Scanned (opensOperand none) (us ++ vs) from h)
  rwa [Option.or_none] at hvs

theorem lexeme_ne_nil {due : Bool} {ts : List Token} (h : Scanned due ts) :
    ∀ t ∈ ts, t.lexeme ≠ [] := by
  intro t ht
  obtain ⟨hknown, hnum⟩ := h.mem t ht
  cases t with
  | number lexeme =>
    obtain ⟨c, run, rfl, -⟩ := numberToken_shape (hnum lexeme rfl)
    exact List.cons_ne_nil c run
  | symbol lexeme =>
    rintro rfl
    exact absurd hknown Bool.false_ne_true

/-- A minus sign belongs to a numeral where an operand is due, and only there. -/
theorem minus {due : Bool} {t : Token} {ts : List Token} (h : Scanned due (t :: ts))
    {front back : List Char} (e : t.lexeme = front ++ '-' :: back) :
    front = [] ∧ t.isNumber = due := by
  cases h with
  | number hnum hsign _ _ =>
    obtain ⟨c, run, rfl, -, hrun, -⟩ := numberToken_shape hnum
    cases front with
    | nil =>
      cases e
      exact ⟨rfl, (hsign rfl).symm⟩
    | cons d front =>
      have hmem : '-' ∈ run := by rw [(List.cons.inj e).2]; simp
      exact absurd (hrun _ hmem) (by decide)
  | symbol _ hminus _ =>
    cases front with
    | nil =>
      cases e
      exact ⟨rfl, (hminus rfl).symm⟩
    | cons d front =>
      exact absurd (List.cons.inj e).2 (by simp)

theorem numbers_apart {due : Bool} {t u : Token} {ts : List Token}
    (h : Scanned due (t :: u :: ts)) : ¬ (t.isNumber = true ∧ u.isNumber = true) := by
  rintro ⟨ht, hu⟩
  cases h with
  | symbol _ _ _ => cases ht
  | number _ _ hfirst _ =>
    rw [hfirst u rfl] at hu
    cases hu

end Scanned

/-! ## foreign characters -/

theorem firstForeign_eq_some {cs : List Char} {c : Char} {index : Nat}
    (h : firstForeign? cs = some (c, index)) :
    ∃ front rest, cs = front ++ c :: rest ∧ index = front.length ∧
      (∀ d ∈ front, inAlphabet d = true) ∧ inAlphabet c = false := by
  unfold firstForeign? at h
  obtain ⟨hc, before, after, e, hbefore⟩ := List.find?_eq_some_iff_append.mp h
  have hcs : cs = before.map Prod.fst ++ c :: after.map Prod.fst := by
    rw [← List.zipIdx_map_fst 0 cs, e, List.map_append]
    rfl
  refine ⟨_, _, hcs, ?_, ?_, by simpa using hc⟩
  · have hat : cs.zipIdx[before.length]? = some (c, index) := by
      rw [e, List.getElem?_append_right (Nat.le_refl _), Nat.sub_self]
      rfl
    rw [List.getElem?_zipIdx] at hat
    obtain ⟨_, -, hpair⟩ := Option.map_eq_some_iff.mp hat
    have hindex := congrArg Prod.snd hpair
    simpa using hindex.symm
  · intro d hd
    obtain ⟨p, hp, rfl⟩ := List.mem_map.mp hd
    simpa using hbefore p hp

/-! ## the tokens of a text -/

/-- The first foreign character is reported, or there is none and the scan says what happens. -/
theorem tokenize_cases (text : List Char) :
    (∃ front c rest, Text.removeBlanks text = front ++ c :: rest ∧
      (∀ d ∈ front, inAlphabet d = true) ∧ inAlphabet c = false ∧
      tokenize text = .error (.invalidCharacter c front.length)) ∨
    ((∀ c ∈ Text.removeBlanks text, inAlphabet c = true) ∧
      Settled [] (Text.removeBlanks text) (tokenize text)) := by
  cases hforeign : firstForeign? (Text.removeBlanks text) with
  | some p =>
    obtain ⟨front, rest, hcs, hindex, hfront, hc⟩ := firstForeign_eq_some hforeign
    refine .inl ⟨front, p.1, rest, hcs, hfront, hc, ?_⟩
    rw [tokenize_of_some hforeign, hindex]
  | none =>
    have halpha := firstForeign_eq_none.mp hforeign
    rw [tokenize_of_none hforeign]
    exact .inr ⟨halpha, scan_settled none _ [] rfl (fresh_nil _) halpha⟩

/-- **What a text comes to.**  It becomes tokens when it has no foreign character, its runs of
digits and points are proper, each with its sign, and no sign is bare.  The tokens spell the text
without its blanks, a minus sign belongs to a numeral just where an operand is due, and no two
numerals stand side by side.  Otherwise the first foreign character is reported with its position
or, when there is none, the leftmost numeral that is not proper. -/
theorem tokenize_settled (text : List Char) :
    ((∃ ts, tokenize text = .ok ts) ↔
      (∀ c ∈ Text.removeBlanks text, inAlphabet c = true) ∧
      (∀ before run after, Text.removeBlanks text = before ++ (run ++ after) →
        IsRun before run after → IsProper (trailingSign before ++ run)) ∧
      ∀ before after, Text.removeBlanks text = before ++ '-' :: after →
        opensOperand before.getLast? = true → ∃ c ∈ after.head?, isNumberChar c = true) ∧
    (∀ ts, tokenize text = .ok ts →
      spelled ts = Text.removeBlanks text ∧ (∀ t ∈ ts, t.lexeme ≠ []) ∧
      (∀ us t vs, ts = us ++ t :: vs → ∀ front back, t.lexeme = front ++ '-' :: back →
        (t.isNumber = true ↔ opensOperand (spelled us ++ front).getLast? = true)) ∧
      ∀ us t u vs, ts = us ++ t :: u :: vs → ¬ (t.isNumber = true ∧ u.isNumber = true)) ∧
    (∀ e, tokenize text = .error e →
      (∃ front c rest, Text.removeBlanks text = front ++ c :: rest ∧
        (∀ d ∈ front, inAlphabet d = true) ∧ inAlphabet c = false ∧
        e = .invalidCharacter c front.length) ∨
      ((∀ c ∈ Text.removeBlanks text, inAlphabet c = true) ∧ e.kind = .invalidNumberFormat ∧
        FirstRefused [] (Text.removeBlanks text) e)) := by
  refine ⟨?_, ?_, ?_⟩
  · rw [← proper_iff]
    rcases tokenize_cases text with ⟨front, c, rest, hcs, -, hc, herror⟩ | ⟨halpha,
      ⟨hok, hall⟩ | ⟨e, herror, front, lexeme, rest, hcs, hat, hrefuses, -⟩⟩
    · rw [herror]
      refine iff_of_false error_ne_ok fun h => ?_
      rw [h.1 c (by rw [hcs]; simp)] at hc
      cases hc
    · exact iff_of_true hok ⟨halpha, hall⟩
    · rw [herror]
      exact iff_of_false error_ne_ok fun h => hrefuses.not_proper (h.2 front lexeme rest hcs hat)
  · intro ts h
    obtain ⟨hscanned, hspelled⟩ := tokenize_eq_ok_iff.mp h
    refine ⟨hspelled.symm, hscanned.lexeme_ne_nil, ?_, ?_⟩
    · rintro us t vs rfl front back hlexeme
      obtain ⟨rfl, hdue⟩ := hscanned.behind_start.minus hlexeme
      rw [hdue, List.append_nil]
    · rintro us t u vs rfl
      exact hscanned.behind_start.numbers_apart
  · intro e h
    rcases tokenize_cases text with ⟨front, c, rest, hcs, hfront, hc, herror⟩ | ⟨halpha,
      ⟨⟨ts, hok⟩, -⟩ | ⟨e', herror, hfirst⟩⟩
    · exact .inl ⟨front, c, rest, hcs, hfront, hc, Except.error.inj (h.symm.trans herror)⟩
    · rw [hok] at h
      cases h
    · obtain rfl : e' = e := Except.error.inj (herror.symm.trans h)
      obtain ⟨_, _, _, _, _, hrefuses, _⟩ := id hfirst
      exact .inr ⟨halpha, hrefuses.kind, hfirst⟩

/-- A sign without a run, in front of a run that is not proper either. -/
theorem tokenize_settled_bare_sign :
    tokenize " 2 * - ( 1..2 )".toList = .error (.invalidNumber ['-']) ∧
    FirstRefused [] (Text.removeBlanks " 2 * - ( 1..2 )".toList) (.invalidNumber ['-']) := by
  have h : tokenize " 2 * - ( 1..2 )".toList = .error (.invalidNumber ['-']) := by decide +kernel
  refine ⟨h, ?_⟩
  rcases (tokenize_settled _).2.2 _ h with ⟨_, _, _, _, _, _, e⟩ | ⟨_, _, hfirst⟩
  · cases e
  · exact hfirst

/-- A foreign character comes first, wherever it stands. -/
example : tokenize "1..2 + x".toList = .error (.invalidCharacter 'x' 5) := by decide +kernel

end AlgebraDesk.Calculator
