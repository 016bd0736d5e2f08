import AlgebraDesk.Proofs.Calculator.Evaluation
import AlgebraDesk.Proofs.Calculator.Ordering

/-!
# Operands side by side and operands missing

In an expression every token that ends an operand is followed by one that starts none, and the other
way round; the edges count as parentheses.  In a row both rules can be broken, and counting shows by
how much: there is one numeral more than there are operations, plus one for each pair of operands
side by side, minus one for each operand that is missing.  A reading that breaks neither rule is a
derivation.

* `surplus`           how many more numerals than operations there are, which the ordering keeps;
* `joins_sub_gaps`    what it has to do with operands side by side and operands missing;
* `Reads.expression`  a reading without either is a derivation.
-/

namespace AlgebraDesk.Calculator

/-! ## numerals against operations -/

/-- 1 for a numeral, -1 for an operation and 0 for a parenthesis -/
def Token.weight (t : Token) : Int := t.endsOperand.toNat + t.startsOperand.toNat - 1

/-- how many more numerals than operations there are -/
def surplus : List Token → Int
  | [] => 0
  | t :: ts => t.weight + surplus ts

theorem surplus_nil : surplus [] = 0 := rfl

theorem surplus_cons (t : Token) (ts : List Token) : surplus (t :: ts) = t.weight + surplus ts :=
  rfl

theorem surplus_append (ts us : List Token) : surplus (ts ++ us) = surplus ts + surplus us := by
  induction ts with
  | nil => rw [List.nil_append, surplus_nil, Int.zero_add]
  | cons t ts ih => rw [List.cons_append, surplus_cons, surplus_cons, ih, Int.add_assoc]

theorem weight_opening : opening.weight = 0 := by decide
theorem weight_closing : closing.weight = 0 := by decide
theorem weight_symbol (op : Operation) : op.symbol.weight = -1 := by cases op <;> decide

theorem Tree.surplus_order (t : Tree) : surplus t.order = 1 := by
  induction t with
  | number lexeme => rfl
  | node op l r ihl ihr =>
    rw [order, surplus_append, surplus_append, ihl, ihr, surplus_cons, weight_symbol, surplus_nil]
    rfl

/-- The ordering moves tokens and drops parentheses. -/
theorem Reads.surplus_eq {level : Level} {ts ps : List Token} (h : Reads level ts ps) :
    surplus ps = surplus ts := by
  induction h with
  | nil => rfl
  | number lexeme _ ih => rw [surplus_append, surplus_append, ih]
  | group _ _ iht ihu =>
    simp only [surplus_append, surplus_cons, weight_opening, weight_closing, surplus_nil, iht, ihu]
    omega
  | tighter _ ih => exact ih
  | node op _ _ ihl ihr =>
    simp only [surplus_append, surplus_cons, weight_symbol, surplus_nil, ihl, ihr]
    omega

/-- What is written is made of the numerals and the operations that were read. -/
theorem Reads.mem {level : Level} {ts ps : List Token} (h : Reads level ts ps) :
    ∀ p ∈ ps, p ∈ ts ∧ p.isPostfix := by
  induction h with
  | nil => exact nofun
  | number lexeme _ ih =>
    intro p hp
    rcases List.mem_append.mp hp with h | h
    · exact ⟨List.mem_append_left _ (ih p h).1, (ih p h).2⟩
    · obtain rfl := List.mem_singleton.mp h
      exact ⟨List.mem_append_right _ h, .inl ⟨lexeme, rfl⟩⟩
  | group _ _ iht ihu =>
    intro p hp
    rcases List.mem_append.mp hp with h | h
    · exact ⟨List.mem_append_left _ (iht p h).1, (iht p h).2⟩
    · have hu := List.mem_append_left [closing] (ihu p h).1
      exact ⟨List.mem_append_right _ (List.mem_cons_of_mem _ hu), (ihu p h).2⟩
  | tighter _ ih => exact ih
  | node op _ _ ihl ihr =>
    intro p hp
    rcases List.mem_append.mp hp with h | h
    · rcases List.mem_append.mp h with h | h
      · exact ⟨List.mem_append_left _ (ihl p h).1, (ihl p h).2⟩
      · exact ⟨List.mem_append_right _ (List.mem_cons_of_mem _ (ihr p h).1), (ihr p h).2⟩
    · obtain rfl := List.mem_singleton.mp h
      exact ⟨List.mem_append_right _ List.mem_cons_self, .inr ⟨op, rfl⟩⟩

/-! ## counting neighbours -/

theorem neighbours_append (p : Token → Token → Bool) (ls : List Token) (t : Token)
    (rs : List Token) :
    neighbours p (ls ++ t :: rs) = neighbours p (ls ++ [t]) + neighbours p (t :: rs) := by
  induction ls with
  | nil => exact (Nat.zero_add _).symm
  | cons a ls ih =>
    cases ls with
    | nil => rfl
    | cons b ls =>
      show _ + neighbours p (b :: ls ++ t :: rs) = _ + neighbours p (b :: ls ++ [t]) + _
      rw [ih, Nat.add_assoc]

theorem neighbours_pos {p : Token → Token → Bool} {ts : List Token} (h : 0 < neighbours p ts) :
    ∃ before after a b, ts = before ++ a :: b :: after ∧ p a b = true := by
  induction ts with
  | nil => cases h
  | cons a ts ih =>
    match ts, h with
    | b :: ts, h =>
      cases hp : p a b with
      | true => exact ⟨[], ts, a, b, rfl, hp⟩
      | false =>
        have h' : 0 < neighbours p (b :: ts) := by
          rw [neighbours, hp] at h
          simpa using h
        obtain ⟨before, after, c, d, e, hcd⟩ := ih h'
        exact ⟨a :: before, after, c, d, by rw [e]; rfl, hcd⟩

theorem neighbours_of_mem {p : Token → Token → Bool} (before after : List Token) {a b : Token}
    (h : p a b = true) : 0 < neighbours p (before ++ a :: b :: after) := by
  rw [neighbours_append, neighbours, h, Bool.toNat_true]
  omega

/-- Neighbours that break one of the two rules. -/
def clash (a b : Token) : Bool := a.endsOperand == b.startsOperand

theorem clash_eq (ts : List Token) :
    neighbours clash ts = neighbours (fun a b => a.endsOperand && b.startsOperand) ts
      + neighbours (fun a b => !a.endsOperand && !b.startsOperand) ts := by
  induction ts with
  | nil => rfl
  | cons a ts ih =>
    cases ts with
    | nil => rfl
    | cons b ts =>
      simp only [neighbours, clash] at ih ⊢
      rw [ih]
      cases a.endsOperand <;> cases b.startsOperand <;> simp <;> omega

/-- Between two tokens that take no part, each join counts for a numeral too many and each gap for
one too few. -/
theorem joins_sub_gaps_between (ts : List Token) : ∀ (a b : Token),
    (neighbours (fun a b => a.endsOperand && b.startsOperand) (a :: (ts ++ [b])) : Int)
      - neighbours (fun a b => !a.endsOperand && !b.startsOperand) (a :: (ts ++ [b]))
      = a.endsOperand.toNat + b.startsOperand.toNat - 1 + surplus ts := by
  induction ts with
  | nil =>
    intro a b
    simp only [List.nil_append, neighbours, surplus_nil]
    cases a.endsOperand <;> cases b.startsOperand <;> rfl
  | cons c ts ih =>
    intro a b
    have h := ih c b
    rw [surplus_cons, Token.weight]
    rw [List.cons_append, neighbours, neighbours]
    cases a.endsOperand <;> cases hc : c.startsOperand <;> simp <;> omega

theorem joins_between (ts : List Token) :
    neighbours (fun a b => a.endsOperand && b.startsOperand) (opening :: (ts ++ [closing]))
      = joins ts := by
  have hclose : ∀ a : Token, (a.endsOperand && closing.startsOperand) = false := by
    intro a
    rw [show closing.startsOperand = false by decide, Bool.and_false]
  have hopen : ∀ b : Token, (opening.endsOperand && b.startsOperand) = false := by
    intro b
    rw [show opening.endsOperand = false by decide, Bool.false_and]
  have hend : ∀ us : List Token,
      neighbours (fun a b => a.endsOperand && b.startsOperand) (us ++ [closing])
        = neighbours (fun a b => a.endsOperand && b.startsOperand) us := by
    intro us
    induction us with
    | nil => rfl
    | cons a us ih =>
      cases us with
      | nil => simp [neighbours, hclose]
      | cons b us =>
        simp only [List.cons_append, neighbours] at ih ⊢
        rw [ih]
  unfold joins
  cases ts with
  | nil => simp [neighbours, hopen]
  | cons a ts =>
    rw [List.cons_append, neighbours, hopen, Bool.toNat_false, Nat.zero_add]
    exact hend (a :: ts)

/-- **One numeral more than operations**, when as many operands stand side by side as are
missing. -/
theorem joins_sub_gaps (ts : List Token) : (joins ts : Int) - gaps ts = surplus ts - 1 := by
  have h := joins_sub_gaps_between ts opening closing
  rw [joins_between] at h
  rw [gaps, h, show opening.endsOperand = false by decide,
    show closing.startsOperand = false by decide]
  show 0 + 0 - 1 + surplus ts = _
  omega

theorem juxtaposed_iff (ts : List Token) : Juxtaposed ts ↔ 0 < joins ts := by
  constructor
  · rintro ⟨before, after, a, b, rfl, ha, hb⟩
    exact neighbours_of_mem before after (by rw [ha, hb]; rfl)
  · intro h
    obtain ⟨before, after, a, b, e, hab⟩ := neighbours_pos h
    exact ⟨before, after, a, b, e, by simpa using hab⟩

instance (ts : List Token) : Decidable (Juxtaposed ts) :=
  decidable_of_iff _ (juxtaposed_iff ts).symm

/-! ## readings without clashes -/

/-- A row that is not empty ends with an operand. -/
theorem Reads.row_end {level : Level} {ts ps : List Token} (h : Reads level ts ps) :
    level = .operand → (ts = [] ∧ ps = []) ∨ ∃ us z, ts = us ++ [z] ∧ z.endsOperand = true := by
  induction h with
  | nil => exact fun _ => .inl ⟨rfl, rfl⟩
  | @number lexeme ts ps _ _ => exact fun _ => .inr ⟨ts, .number lexeme, rfl, rfl⟩
  | @group ts ps us qs _ _ _ _ =>
    exact fun _ => .inr ⟨ts ++ opening :: us, closing, by simp, by decide⟩
  | tighter _ ih =>
    rintro rfl
    exact ih rfl
  | node op _ _ _ _ => exact fun e => absurd e (by cases op <;> decide)

/-- A row that is followed by an operand without a clash is empty. -/
theorem Reads.row_nil {ts ps : List Token} (h : Reads .operand ts ps) (a b : Token)
    (rest : List Token) (hb : b.startsOperand = true)
    (hc : neighbours clash (a :: (ts ++ b :: rest)) = 0) : ts = [] ∧ ps = [] := by
  rcases h.row_end rfl with h | ⟨us, z, rfl, hz⟩
  · exact h
  · have e : a :: (us ++ [z] ++ b :: rest) = (a :: us) ++ z :: b :: rest := by simp
    have hpos : 0 < neighbours clash ((a :: us) ++ z :: b :: rest) :=
      neighbours_of_mem (a :: us) rest (by rw [clash, hz, hb]; rfl)
    rw [e] at hc
    omega

/-- **A reading without clashes is a derivation.** -/
theorem Reads.derives {level : Level} {ts ps : List Token} (h : Reads level ts ps) :
    ∀ a b : Token, a.endsOperand = false → b.startsOperand = false →
      neighbours clash (a :: (ts ++ [b])) = 0 → ∃ t, Derives level ts t ∧ t.order = ps := by
  induction h with
  | nil =>
    intro a b ha hb hc
    rw [List.nil_append, neighbours, clash, ha, hb] at hc
    cases hc
  | @number lexeme ts ps h _ =>
    intro a b ha hb hc
    rw [List.append_assoc] at hc
    obtain ⟨rfl, rfl⟩ := h.row_nil a (.number lexeme) [b] rfl hc
    exact ⟨.number lexeme, .number lexeme, rfl⟩
  | @group ts ps us qs h _ _ ihu =>
    intro a b ha hb hc
    rw [List.append_assoc, List.cons_append] at hc
    obtain ⟨rfl, rfl⟩ := h.row_nil a opening _ (by decide) hc
    have e : a :: ([] ++ opening :: (us ++ [closing] ++ [b]))
        = (a :: opening :: us) ++ closing :: [b] := by simp
    rw [e, neighbours_append] at hc
    have hu : neighbours clash (opening :: (us ++ [closing])) = 0 := by
      have hc' := (Nat.add_eq_zero_iff.mp hc).1
      rw [show a :: opening :: us ++ [closing] = [a] ++ opening :: (us ++ [closing]) from rfl,
        neighbours_append] at hc'
      exact (Nat.add_eq_zero_iff.mp hc').2
    obtain ⟨t, ht, rfl⟩ := ihu opening closing (by decide) (by decide) hu
    exact ⟨t, .group ht, rfl⟩
  | tighter _ ih =>
    intro a b ha hb hc
    obtain ⟨t, ht, ho⟩ := ih a b ha hb hc
    exact ⟨t, .tighter ht, ho⟩
  | @node op ls ps rs qs _ _ ihl ihr =>
    intro a b ha hb hc
    have hends : op.symbol.endsOperand = false := by cases op <;> decide
    have hstarts : op.symbol.startsOperand = false := by cases op <;> decide
    rw [List.append_assoc, List.cons_append,
      show a :: (ls ++ op.symbol :: (rs ++ [b])) = (a :: ls) ++ op.symbol :: (rs ++ [b]) from rfl,
      neighbours_append] at hc
    obtain ⟨hl, hr⟩ := Nat.add_eq_zero_iff.mp hc
    obtain ⟨l, hl', rfl⟩ := ihl a op.symbol ha hstarts hl
    obtain ⟨r, hr', rfl⟩ := ihr op.symbol b hends hb hr
    exact ⟨.node op l r, .node op hl' hr', rfl⟩

/-- A list that reads as a sum, with no operands side by side and none missing, is an expression. -/
theorem Reads.expression {ts ps : List Token} (h : Reads .sum ts ps) (hj : joins ts = 0)
    (hg : gaps ts = 0) : ∃ t, Derives .sum ts t ∧ t.order = ps := by
  refine h.derives opening closing (by decide) (by decide) ?_
  rw [clash_eq, joins_between, hj, Nat.zero_add]
  exact hg

end AlgebraDesk.Calculator
