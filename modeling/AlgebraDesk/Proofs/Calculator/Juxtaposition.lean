import AlgebraDesk.Proofs.Calculator.Infix

/-!
# Operands side by side

Parentheses that balance are all that the ordering asks for, and the evaluation asks for a postfix
list that is a listing.  Operands side by side and operands that are missing can make up for each
other: `2(3)+` has the order of `2+3`, and its value.  They do so just when the order is a listing,
and then as many operands are missing as stand side by side.

* `Refused`  no value, and one of the two errors that the evaluation raises;
* `juxtaposed_refused_unless_listing`  when operands side by side are refused, and what they give
                                       otherwise;
* `juxtaposed_not_always_refused`      they are not always refused.
-/

namespace AlgebraDesk.Calculator

/-- No expression, or a division by zero on the way. -/
def Refused (text : List Char) : Prop :=
  ∃ e : Error, evaluate text = .error (.refused e) ∧
    (e.kind = .invalidExpression ∨ e.kind = .divisionByZero)

/-- The order of the tokens of a text whose parentheses balance. -/
theorem evaluate_of_reads {text : List Char} {ts ps : List Token} (hscan : tokenize text = .ok ts)
    (hreads : Reads .sum ts ps) : evaluate text = evalPostfix ps :=
  evaluate_of_tokenize hscan (toPostfix_reads hreads)

/-- Whatever does not evaluate is refused in one of these two ways. -/
theorem refused_iff {text : List Char} {ts ps : List Token} (hscan : tokenize text = .ok ts)
    (hreads : Reads .sum ts ps) : Refused text ↔ ∀ x, evaluate text ≠ .ok x := by
  have hscanned := (tokenize_eq_ok_iff.mp hscan).1
  have hvalues : ∀ lexeme, .number lexeme ∈ ps → ∃ x, numeralValue lexeme = .ok x := by
    intro lexeme hl
    obtain ⟨x, hx, _⟩ := hscanned.finite_value (hreads.mem _ hl).1
    exact ⟨x, hx⟩
  unfold Refused
  rw [evaluate_of_reads hscan hreads]
  constructor
  · rintro ⟨e, he, _⟩ x hx
    rw [hx] at he
    cases he
  · intro h
    cases hvalue : evalPostfix ps with
    | ok x => exact absurd hvalue (h x)
    | error e =>
      obtain ⟨r, rfl, hkind⟩ := refused_of_evalPostfix hvalues hvalue
      exact ⟨r, rfl, hkind⟩

/-- **Operands side by side are refused, unless the order is a listing.**  Then an operand is
missing for each one that stands beside another, and the text evaluates as the tree that is
listed. -/
theorem juxtaposed_refused_unless_listing {text : List Char} {ts : List Token}
    (hscan : tokenize text = .ok ts) (hbalanced : Balanced ts) (hbeside : Juxtaposed ts) :
    ∃ ps, Reads .sum ts ps ∧ (¬ IsListing ps → Refused text) ∧
      (IsListing ps → 0 < gaps ts ∧ gaps ts = joins ts ∧
        ∃ t : Tree, t.order = ps ∧ evaluate text = t.value ∧
          (Refused text ↔ ∀ x, t.value ≠ .ok x)) := by
  have hscanned := (tokenize_eq_ok_iff.mp hscan).1
  obtain ⟨ps, hreads⟩ := hbalanced.reads hscanned.known
  have hevaluate : evaluate text = evalPostfix ps := evaluate_of_reads hscan hreads
  refine ⟨ps, hreads, fun hlist => ?_, fun hlist => ?_⟩
  · refine (refused_iff hscan hreads).mpr (fun x hx => hlist ?_)
    rw [hevaluate] at hx
    exact height_of_foldlM (evalPostfix_eq_ok.mp hx)
  · obtain ⟨t, rfl⟩ := (isListing_iff (fun p hp => (hreads.mem p hp).2)).mp hlist
    rw [evalPostfix_order] at hevaluate
    have hcount : (joins ts : Int) - gaps ts = 0 := by
      rw [joins_sub_gaps, ← hreads.surplus_eq, t.surplus_order]
      rfl
    have hjoins : 0 < joins ts := (juxtaposed_iff ts).mp hbeside
    refine ⟨by omega, by omega, t, rfl, hevaluate, ?_⟩
    rw [refused_iff hscan hreads, hevaluate]

/-- Two groups side by side; the order `2 3 + 4` leaves two values. -/
theorem adjacent_groups_refused :
    let tokens : List Token := [opening, .number ['2'], .symbol ['+'], .number ['3'], closing,
      opening, .number ['4'], closing]
    let text : List Char := "(2+3)(4)".toList
    (tokenize text = .ok tokens ∧ Balanced tokens ∧ Juxtaposed tokens) ∧
      ∃ ps, Reads .sum tokens ps ∧ (¬ IsListing ps → Refused text) ∧
        (IsListing ps → 0 < gaps tokens ∧ gaps tokens = joins tokens ∧
          ∃ t : Tree, t.order = ps ∧ evaluate text = t.value ∧
            (Refused text ↔ ∀ x, t.value ≠ .ok x)) := by
  intro tokens text
  have hscan : tokenize text = .ok tokens := by decide +kernel
  exact ⟨⟨hscan, by decide, by decide⟩,
    juxtaposed_refused_unless_listing hscan (by decide) (by decide)⟩

/-- **An operator at the end makes up for operands side by side.** -/
theorem juxtaposed_not_always_refused :
    ¬ ∀ (text : List Char) (ts : List Token), tokenize text = .ok ts → Balanced ts →
      Juxtaposed ts → Refused text := by
  intro h
  have hscan : tokenize "2(3)+".toList
      = .ok [.number ['2'], opening, .number ['3'], closing, .symbol ['+']] := by decide +kernel
  obtain ⟨e, he, _⟩ := h "2(3)+".toList _ hscan (by decide) (by decide)
  have hfive : evaluate "2(3)+".toList = .ok 5 := by decide +kernel
  rw [hfive] at he
  cases he

end AlgebraDesk.Calculator
