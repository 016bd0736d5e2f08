import AlgebraDesk.Proofs.Polynomial.Summand
import Mathlib.Algebra.BigOperators.Group.List.Basic

/-!
# Factors without their stars

The factors of a product are whole numbers, `x` and `x^2`.  Without the stars between them two
numbers next to each other become one, and a variable is read only as the last factor.

* `Factor`                     a factor as it is written;
* `joinedChars`                factors one after the other;
* `IsReadable`                 a variable stands only at the end;
* `number`, `joinedNumber`     the product of the literals, and the number that they spell with no
                               star between them;
* `isReadable_of_joinedChars`  only readable factors make a term;
* `prod_lt_digitsValue`        numbers next to each other do not spell their product.
-/

namespace AlgebraDesk.Polynomial

open Decimal (digitsValue digitsValue_nil digitsValue_append digitsValue_lt tenTo tenTo_pos
  tenTo_zero)

inductive Factor where
  | literal (ds : List Char) (ne_nil : ds ≠ []) (digits : ∀ c ∈ ds, Text.isDigit c = true)
  | x
  | square

namespace Factor

def chars : Factor → List Char
  | literal ds _ _ => ds
  | x => ['x']
  | square => ['x', '^', '2']

def degree : Factor → Nat
  | literal _ _ _ => 0
  | x => 1
  | square => 2

/-- The digits of a literal. -/
def literal? : Factor → Option (List Char)
  | literal ds _ _ => some ds
  | x => none
  | square => none

theorem chars_ne_nil (f : Factor) : f.chars ≠ [] := by
  cases f with
  | literal ds ne_nil digits => exact ne_nil
  | x => exact List.cons_ne_nil _ _
  | square => exact List.cons_ne_nil _ _

/-- No factor begins with a caret. -/
theorem head_chars (f : Factor) : f.chars.head? ≠ some '^' := by
  cases f with
  | literal ds ne_nil digits =>
    intro h
    exact absurd (digits '^' (List.mem_of_mem_head? h)) (by decide)
  | x => simp [chars]
  | square => simp [chars]

/-- Digits, the variable, the caret. -/
theorem plain (f : Factor) : ∀ c ∈ f.chars,
    isSign c = false ∧ c ≠ '*' ∧ c ≠ 'X' ∧ c ≠ '.' := by
  cases f with
  | literal ds ne_nil digits =>
    intro c hc
    have hdigit := digits c hc
    refine ⟨?_, ne_of_class hdigit (by decide), ne_of_class hdigit (by decide),
      ne_of_class hdigit (by decide)⟩
    unfold isSign
    rw [beq_false_of_ne (ne_of_class hdigit (by decide)),
      beq_false_of_ne (ne_of_class hdigit (by decide))]
    rfl
  | x =>
    intro c hc
    rw [List.mem_singleton.mp hc]
    exact ⟨by decide, by decide, by decide, by decide⟩
  | square =>
    have hall : ∀ c ∈ ['x', '^', '2'],
        isSign c = false ∧ c ≠ '*' ∧ c ≠ 'X' ∧ c ≠ '.' := by
      rw [List.forall_mem_cons, List.forall_mem_cons, List.forall_mem_singleton]
      refine ⟨?_, ?_, ?_⟩ <;> exact ⟨by decide, by decide, by decide, by decide⟩
    exact hall

end Factor

/-! ## factors one after the other -/

/-- What is left of factors without the stars. -/
def joinedChars (fs : List Factor) : List Char := fs.flatMap Factor.chars

def literals (fs : List Factor) : List (List Char) := fs.filterMap Factor.literal?

def degreeOf (fs : List Factor) : Nat := (fs.map Factor.degree).sum

/-- All factors but the last are literals. -/
def IsReadable (fs : List Factor) : Prop := ∀ f ∈ fs.dropLast, f.literal?.isSome = true

section
variable {fs : List Factor} {ws mark : List Char} {degree : Nat}

theorem literals_digits (fs : List Factor) :
    ∀ ds ∈ literals fs, ds ≠ [] ∧ ∀ c ∈ ds, Text.isDigit c = true := by
  intro ds hds
  obtain ⟨f, _, hf⟩ := List.mem_filterMap.mp hds
  cases f with
  | literal ds' ne_nil digits =>
    cases hf
    exact ⟨ne_nil, digits⟩
  | x => cases hf
  | square => cases hf

theorem joinedChars_cons (f : Factor) (fs : List Factor) :
    joinedChars (f :: fs) = f.chars ++ joinedChars fs := rfl

theorem joinedChars_eq_nil : joinedChars fs = [] ↔ fs = [] := by
  cases fs with
  | nil => exact ⟨fun _ => rfl, fun _ => rfl⟩
  | cons f fs =>
    refine ⟨fun h => ?_, nofun⟩
    exact absurd (List.append_eq_nil_iff.mp h).1 f.chars_ne_nil

theorem head_joinedChars (fs : List Factor) : (joinedChars fs).head? ≠ some '^' := by
  cases fs with
  | nil => nofun
  | cons f fs =>
    rw [joinedChars_cons, List.head?_append_of_ne_nil _ f.chars_ne_nil]
    exact f.head_chars

theorem isReadable_cons_literal {ds : List Char} {ne_nil : ds ≠ []}
    {digits : ∀ c ∈ ds, Text.isDigit c = true} :
    IsReadable (.literal ds ne_nil digits :: fs) ↔ IsReadable fs := by
  unfold IsReadable
  cases fs with
  | nil => simp
  | cons f fs =>
    rw [List.dropLast_cons_cons, List.forall_mem_cons]
    exact and_iff_right rfl

theorem isReadable_singleton (f : Factor) : IsReadable [f] := nofun

/-- A variable is followed by nothing. -/
theorem eq_nil_of_isReadable {f : Factor} (hf : f.literal? = none) (h : IsReadable (f :: fs)) :
    fs = [] := by
  cases fs with
  | nil => rfl
  | cons g fs =>
    have hsome := h f List.mem_cons_self
    rw [hf] at hsome
    exact absurd hsome Bool.false_ne_true

theorem joinedChars_of_isReadable (h : IsReadable fs) :
    ∃ mark, Mark mark (degreeOf fs) ∧ joinedChars fs = (literals fs).flatten ++ mark := by
  induction fs with
  | nil => exact ⟨[], .constant, rfl⟩
  | cons f fs ih =>
    cases f with
    | literal ds ne_nil digits =>
      obtain ⟨mark, hmark, hjoined⟩ := ih (isReadable_cons_literal.mp h)
      refine ⟨mark, ?_, ?_⟩
      · have hdegree : degreeOf (.literal ds ne_nil digits :: fs) = degreeOf fs := Nat.zero_add _
        rwa [hdegree]
      · show ds ++ joinedChars fs = (ds :: literals fs).flatten ++ mark
        rw [hjoined, List.flatten_cons, List.append_assoc]
    | x =>
      obtain rfl := eq_nil_of_isReadable rfl h
      exact ⟨['x'], .simple, rfl⟩
    | square =>
      obtain rfl := eq_nil_of_isReadable rfl h
      exact ⟨['x', '^', '2'], .second, rfl⟩

theorem isDigit_of_mark (h : Mark mark degree) : ∀ c ∈ mark.head?, Text.isDigit c = false := by
  intro c hc
  exact (Bool.or_eq_false_iff.mp (h.stop c hc)).1

/-- Digits in front do not reach into the mark. -/
theorem exists_digits_of_append {ds rest : List Char} (hds : ∀ c ∈ ds, Text.isDigit c = true)
    (hmark : Mark mark degree) (h : ds ++ rest = ws ++ mark) :
    ∃ ws', ws = ds ++ ws' ∧ rest = ws' ++ mark := by
  rcases List.append_eq_append_iff.mp h with ⟨ws', hws', hrest⟩ | ⟨more, rfl, hmore⟩
  · exact ⟨ws', hws', hrest⟩
  · cases more with
    | nil => exact ⟨[], by rw [List.append_nil, List.append_nil], hmore.symm⟩
    | cons c more =>
      have hdigit := hds c (List.mem_append_right _ List.mem_cons_self)
      rw [isDigit_of_mark hmark c (by rw [hmore]; rfl)] at hdigit
      exact absurd hdigit Bool.false_ne_true

/-- A variable, when it is read, is the whole mark. -/
theorem mark_of_variable {rest : List Char} (hws : ∀ c ∈ ws, Text.isDigit c = true)
    (h : 'x' :: rest = ws ++ mark) : ws = [] ∧ mark = 'x' :: rest := by
  cases ws with
  | nil => exact ⟨rfl, h.symm⟩
  | cons c ws =>
    have hx := hws c List.mem_cons_self
    rw [← (List.cons.inj h).1] at hx
    exact absurd hx (by decide)

/-- **Without the stars only readable factors are digits with a mark.** -/
theorem isReadable_of_joinedChars (hws : ∀ c ∈ ws, Text.isDigit c = true) (hmark : Mark mark degree)
    (h : joinedChars fs = ws ++ mark) :
    IsReadable fs ∧ ws = (literals fs).flatten ∧ degree = degreeOf fs := by
  induction fs generalizing ws with
  | nil =>
    obtain ⟨rfl, rfl⟩ := List.append_eq_nil_iff.mp h.symm
    cases hmark
    exact ⟨nofun, rfl, rfl⟩
  | cons f fs ih =>
    rw [joinedChars_cons] at h
    have hhead := head_joinedChars fs
    cases f with
    | literal ds ne_nil digits =>
      obtain ⟨ws', rfl, hrest⟩ := exists_digits_of_append digits hmark h
      obtain ⟨hreadable, rfl, rfl⟩ := ih (fun c hc => hws c (List.mem_append_right _ hc)) hrest
      exact ⟨isReadable_cons_literal.mpr hreadable, rfl, (Nat.zero_add _).symm⟩
    | x =>
      obtain ⟨rfl, hx⟩ := mark_of_variable hws (show 'x' :: joinedChars fs = ws ++ mark from h)
      cases hmark with
      | constant => cases hx
      | simple =>
        obtain rfl := joinedChars_eq_nil.mp (List.cons.inj hx).2.symm
        exact ⟨isReadable_singleton _, rfl, rfl⟩
      | first => exact absurd (congrArg List.head? (List.cons.inj hx).2).symm hhead
      | second => exact absurd (congrArg List.head? (List.cons.inj hx).2).symm hhead
    | square =>
      obtain ⟨rfl, hx⟩ := mark_of_variable hws
        (show 'x' :: '^' :: '2' :: joinedChars fs = ws ++ mark from h)
      cases hmark with
      | constant => cases hx
      | simple => cases hx
      | first => simp at hx
      | second =>
        have hnil : [] = joinedChars fs := by simpa using hx
        obtain rfl := joinedChars_eq_nil.mp hnil.symm
        exact ⟨isReadable_singleton _, rfl, rfl⟩

end

/-! ## numbers next to each other -/

/-- The product of the literals. -/
def number (fs : List Factor) : Nat := ((literals fs).map digitsValue).prod

/-- The number that the literals spell without the stars, 1 when there is none. -/
def joinedNumber (fs : List Factor) : Nat :=
  if literals fs = [] then 1 else digitsValue (literals fs).flatten

section
variable {rows : List (List Char)}

theorem digitsValue_flatten_eq_zero :
    digitsValue rows.flatten = 0 ↔ ∀ row ∈ rows, digitsValue row = 0 := by
  induction rows with
  | nil => exact ⟨fun _ => nofun, fun _ => rfl⟩
  | cons row rows ih =>
    rw [List.flatten_cons, digitsValue_append, Nat.add_eq_zero_iff, Nat.mul_eq_zero, ih,
      List.forall_mem_cons]
    exact and_congr_left' (or_iff_left (Nat.ne_of_gt (tenTo_pos _)))

/-- Digits next to each other spell no less than the product. -/
theorem prod_le_digitsValue (h : rows ≠ []) :
    (rows.map digitsValue).prod ≤ digitsValue rows.flatten := by
  induction rows with
  | nil => exact absurd rfl h
  | cons row rows ih =>
    rw [List.map_cons, List.prod_cons, List.flatten_cons, digitsValue_append]
    by_cases hnil : rows = []
    · rw [hnil]
      simp [digitsValue_nil, tenTo_zero]
    · calc digitsValue row * (rows.map digitsValue).prod
          ≤ digitsValue row * tenTo rows.flatten.length :=
            Nat.mul_le_mul_left _ ((ih hnil).trans (Nat.le_of_lt (digitsValue_lt _)))
        _ ≤ _ := Nat.le_add_right _ _

/-- **Two numbers next to each other never spell their product**, unless all of them are zero. -/
theorem prod_lt_digitsValue {row : List Char} (h : rows ≠ [])
    (hne : ¬ ∀ r ∈ row :: rows, digitsValue r = 0) :
    ((row :: rows).map digitsValue).prod < digitsValue (row :: rows).flatten := by
  rw [List.map_cons, List.prod_cons]
  by_cases hrow : digitsValue row = 0
  · rw [hrow, Nat.zero_mul]
    exact Nat.pos_of_ne_zero (mt digitsValue_flatten_eq_zero.mp hne)
  · rw [List.flatten_cons, digitsValue_append]
    calc digitsValue row * (rows.map digitsValue).prod
        < digitsValue row * tenTo rows.flatten.length :=
          Nat.mul_lt_mul_of_pos_left ((prod_le_digitsValue h).trans_lt (digitsValue_lt _))
            (Nat.pos_of_ne_zero hrow)
      _ ≤ _ := Nat.le_add_right _ _

theorem joinedNumber_eq_number {fs : List Factor} : joinedNumber fs = number fs ↔
    (literals fs).length ≤ 1 ∨ ∀ ds ∈ literals fs, digitsValue ds = 0 := by
  unfold joinedNumber number
  generalize literals fs = rows
  match rows with
  | [] => simp
  | [row] => simp
  | row :: row' :: rows =>
    rw [if_neg (List.cons_ne_nil _ _)]
    constructor
    · intro heq
      by_contra hne
      rw [not_or] at hne
      exact Nat.ne_of_gt (prod_lt_digitsValue (List.cons_ne_nil _ _) hne.2) heq
    · rintro (hlen | hzero)
      · simp at hlen
      · have hrow := hzero row List.mem_cons_self
        rw [digitsValue_flatten_eq_zero.mpr hzero, List.map_cons, List.prod_cons, hrow,
          Nat.zero_mul]

end

end AlgebraDesk.Polynomial
