import AlgebraDesk.Proofs.Calculator.Grammar

/-!
# Postfix lists that are listings of trees

Counting is enough to tell them: a numeral adds one to a stack, an operation takes two and adds one,
and a listing is a list that finds two whenever it needs them and leaves one.

* `heightAfter?`   the height of the stack behind a list;
* `IsListing`      the lists that leave one;
* `isListing_iff`  they are the listings of trees.
-/

namespace AlgebraDesk.Calculator

/-- none when an operation finds fewer than two operands -/
def heightAfter? : Nat → List Token → Option Nat
  | height, [] => some height
  | height, .number _ :: ts => heightAfter? (height + 1) ts
  | height + 2, .symbol _ :: ts => heightAfter? (height + 1) ts
  | _, .symbol _ :: _ => none

def IsListing (ps : List Token) : Prop := heightAfter? 0 ps = some 1

instance (ps : List Token) : Decidable (IsListing ps) :=
  inferInstanceAs (Decidable (heightAfter? 0 ps = some 1))

/-- numerals and operations, what a postfix list is made of -/
def Token.isPostfix (t : Token) : Prop :=
  (∃ lexeme, t = .number lexeme) ∨ ∃ op : Operation, t = op.symbol

/-- A tree adds one to the stack. -/
theorem heightAfter_order (t : Tree) : ∀ (height : Nat) (rest : List Token),
    heightAfter? height (t.order ++ rest) = heightAfter? (height + 1) rest := by
  induction t with
  | number lexeme => exact fun height rest => rfl
  | node op l r ihl ihr =>
    intro height rest
    have e : (Tree.node op l r).order ++ rest = l.order ++ (r.order ++ op.symbol :: rest) := by
      simp [Tree.order]
    rw [e, ihl, ihr]
    rfl

/-- **A stack of height `n` holds `n` trees**, and their listings are what was read. -/
theorem trees_of_heightAfter {ps : List Token} (plain : ∀ p ∈ ps, p.isPostfix) :
    ∀ (trees : List Tree) {height : Nat}, heightAfter? trees.length ps = some height →
      ∃ trees' : List Tree, trees'.length = height ∧
        trees'.reverse.flatMap Tree.order = trees.reverse.flatMap Tree.order ++ ps := by
  induction ps with
  | nil =>
    intro trees height h
    cases h
    exact ⟨trees, rfl, by rw [List.append_nil]⟩
  | cons p ps ih =>
    intro trees height h
    have ih' := @ih (fun q hq => plain q (List.mem_cons_of_mem _ hq))
    rcases plain p List.mem_cons_self with ⟨lexeme, rfl⟩ | ⟨op, rfl⟩
    · obtain ⟨trees', hlen, ho⟩ := ih' (.number lexeme :: trees) h
      exact ⟨trees', hlen, by rw [ho]; simp [Tree.order]⟩
    · match trees, h with
      | r :: l :: trees, h =>
        obtain ⟨trees', hlen, ho⟩ := ih' (.node op l r :: trees) h
        exact ⟨trees', hlen, by rw [ho]; simp [Tree.order]⟩
      | [], h => cases op <;> cases h
      | [_], h => cases op <;> cases h

/-- **The lists that leave one are the listings of trees.** -/
theorem isListing_iff {ps : List Token} (plain : ∀ p ∈ ps, p.isPostfix) :
    IsListing ps ↔ ∃ t : Tree, t.order = ps := by
  constructor
  · intro h
    obtain ⟨trees, hlen, ho⟩ := trees_of_heightAfter plain [] h
    obtain ⟨t, rfl⟩ := List.length_eq_one_iff.mp hlen
    exact ⟨t, by simpa using ho⟩
  · rintro ⟨t, rfl⟩
    have h := heightAfter_order t 0 []
    rwa [List.append_nil] at h

end AlgebraDesk.Calculator
