import AlgebraDesk.Proofs.Decimal.Written
import AlgebraDesk.Proofs.Lists
import AlgebraDesk.Proofs.Plot.Monomial

/-!
# Scanning a polynomial

A polynomial is cut into its tokens: a numeral ends where a sign or the unknown follows, and the
unknown where a sign or a power does.  So no numeral is taken for an exponent or for digits of
another base, and the unknown is not part of a longer name.

* `Writes`              a numeral with its decimal and the way it is written;
* `spanNumeral_writes`  the numeral at the start of a text;
* `Scans`               a text and its tokens, however many steps are allowed;
* `Scans.numeral`, `Scans.symbol`, `Scans.plus`, `Scans.minus`   one part of a text and the rest.
-/

namespace AlgebraDesk.Plot

open Decimal (Digits IsWritten Spells digits digitsValue mostDigits tenTo)

/-! ## numerals -/

inductive Writes : List Char → Digits → Spelling → Prop where
  | whole (n : Nat) (hn : n < tenTo mostDigits) : Writes (digits n) ⟨n, 0⟩ .whole
  | point (n : Nat) {fs : List Char} (hne : fs ≠ []) (hf : ∀ c ∈ fs, c.isDigit = true) :
    Writes (digits n ++ '.' :: fs) ⟨digitsValue (digits n ++ fs), -fs.length⟩ .pointed

theorem exists_writes {cs : List Char} (h : IsWritten cs) : ∃ d spelling, Writes cs d spelling := by
  cases h with
  | whole n hn => exact ⟨_, _, .whole n hn⟩
  | point n hne hf => exact ⟨_, _, .point n hne hf⟩

section
variable {cs rest : List Char} {d : Digits} {spelling : Spelling}

theorem Writes.spells (h : Writes cs d spelling) : Spells cs d := by
  cases h with
  | whole n hn =>
    have hspells := Spells.whole (Decimal.digits_ne_nil n) (Decimal.isDigit_digits n)
    rwa [Decimal.digitsValue_digits] at hspells
  | point n hne hf =>
    exact .point (.inr hne) (Decimal.isDigit_digits n) fun c hc =>
      Decimal.isDigit_of_ascii (hf c hc)

theorem exists_digits_cons (n : Nat) : ∃ c ds, digits n = c :: ds ∧ c.isDigit = true := by
  obtain ⟨c, ds, hds⟩ := List.exists_cons_of_ne_nil (Decimal.digits_ne_nil n)
  refine ⟨c, ds, hds, Decimal.isDigit_of_mem_digits (n := n) ?_⟩
  rw [hds]
  exact List.mem_cons_self

/-- A numeral begins with a digit. -/
theorem Writes.head (h : Writes cs d spelling) : ∃ c ds, cs = c :: ds ∧ c.isDigit = true := by
  cases h with
  | whole n hn => exact exists_digits_cons n
  | point n hne hf =>
    obtain ⟨c, ds, hds, hc⟩ := exists_digits_cons n
    exact ⟨c, ds ++ '.' :: _, by rw [hds]; rfl, hc⟩

/-- Only zero is written with a zero in front. -/
theorem digits_head_zero {n : Nat} {ds : List Char} (h : digits n = '0' :: ds) : n = 0 := by
  by_contra hn
  have hlow := Decimal.tenTo_length_le hn
  have hvalue : digitsValue ('0' :: ds) = digitsValue ds := by
    have happend := Decimal.digitsValue_append ['0'] ds
    have hzero : digitsValue ['0'] = 0 := by decide
    rwa [hzero, Nat.zero_mul, Nat.zero_add] at happend
  have hhigh := Decimal.digitsValue_lt ds
  rw [← hvalue, ← h, Decimal.digitsValue_digits] at hhigh
  rw [h, List.length_cons, Nat.add_sub_cancel] at hlow
  omega

/-- What can follow a numeral in a polynomial. -/
def isStop (c : Char) : Bool := c == 'x' || c == '+' || c == '-'

theorem isDigit_of_isStop {c : Char} (h : isStop c = true) : c.isDigit = false := by
  unfold isStop at h
  simp only [Bool.or_eq_true, beq_iff_eq] at h
  rcases h with (rfl | rfl) | rfl <;> decide

theorem spanFraction_stop (h : ∀ c ∈ rest.head?, isStop c = true) :
    spanFraction rest = ([], rest) := by
  unfold spanFraction
  split
  · exact absurd (h '.' rfl) (by decide)
  · rfl

theorem spanExponent_stop (h : ∀ c ∈ rest.head?, isStop c = true) :
    spanExponent rest = ([], rest) := by
  cases rest with
  | nil => rfl
  | cons c rest =>
    have hc : isStop c = true := h c rfl
    have hsmall : (c == 'e') = false := beq_eq_false_iff_ne.mpr (ne_of_class hc (by decide))
    have hlarge : (c == 'E') = false := beq_eq_false_iff_ne.mpr (ne_of_class hc (by decide))
    unfold spanExponent
    simp only [hsmall, hlarge, Bool.or_self, Bool.false_eq_true, if_false]

/-- The digits in front of a stop or a point. -/
theorem spanDigits_whole {n : Nat} (h : ∀ c ∈ rest.head?, c.isDigit = false) :
    (digits n ++ rest).takeWhile Char.isDigit = digits n ∧
      (digits n ++ rest).dropWhile Char.isDigit = rest := by
  have hdigits : ∀ c ∈ digits n, c.isDigit = true := fun _ hc => Decimal.isDigit_of_mem_digits hc
  exact ⟨takeWhile_append_stop hdigits h, dropWhile_append_stop hdigits h⟩

theorem spanWhole_digits (n : Nat) (h : ∀ c ∈ rest.head?, isStop c = true) :
    spanWhole (digits n ++ rest) = (digits n, rest) := by
  by_cases hn : n = 0
  · have hstop : ∀ c ∈ rest.head?, (c == '0') = false := fun c hc =>
      beq_eq_false_iff_ne.mpr (ne_of_class (h c hc) (by decide))
    have htake : ([] ++ rest).takeWhile (· == '0') = [] := takeWhile_append_stop nofun hstop
    have hdrop : ([] ++ rest).dropWhile (· == '0') = rest := dropWhile_append_stop nofun hstop
    rw [hn, Decimal.digits_zero]
    show ('0' :: rest.takeWhile (· == '0'), rest.dropWhile (· == '0')) = _
    rw [List.nil_append] at htake hdrop
    rw [htake, hdrop]
  · obtain ⟨htake, hdrop⟩ := @spanDigits_whole rest n fun c hc => isDigit_of_isStop (h c hc)
    unfold spanWhole
    split
    · rename_i r hzero
      obtain ⟨c, ds, hds, hc⟩ := exists_digits_cons n
      rw [hds, List.cons_append, List.cons.injEq] at hzero
      exact absurd (digits_head_zero (hzero.1 ▸ hds)) hn
    · rw [htake, hdrop]

/-- **A numeral is taken off as a whole** from a polynomial. -/
theorem spanNumeral_writes (h : Writes cs d spelling) (hrest : ∀ c ∈ rest.head?, isStop c = true) :
    spanNumeral (cs ++ rest) = some (.numeral d spelling, rest) := by
  have hdigit : ∀ c ∈ rest.head?, c.isDigit = false := fun c hc => isDigit_of_isStop (hrest c hc)
  cases h with
  | whole n hn =>
    obtain ⟨htake, hdrop⟩ := @spanDigits_whole rest n hdigit
    have hunsigned := (Writes.whole n hn).spells.unsigned
    have hlength : ¬ Decimal.maxIntegerDigits < (digits n).length := by
      have hle := Decimal.length_digits_le hn (by decide)
      exact Nat.not_lt.mpr (hle.trans (by decide))
    have htoken : numeral? ⟨n, 0⟩ .whole = some (.numeral ⟨n, 0⟩ .whole) := if_neg hlength
    unfold spanNumeral
    simp only [htake, hdrop, spanFraction_stop hrest, spanExponent_stop hrest,
      spanWhole_digits n hrest, hunsigned]
    show (numeral? ⟨n, 0⟩ .whole >>= fun t => some (t, rest)) = _
    rw [htoken]
    rfl
  | @point n fs hne hf =>
    have hpoint : ∀ c ∈ ('.' :: (fs ++ rest)).head?, c.isDigit = false := by
      intro c hc
      rw [← Option.some.inj hc]
      decide
    obtain ⟨htake, hdrop⟩ := @spanDigits_whole ('.' :: (fs ++ rest)) n hpoint
    have hunsigned := (Writes.point n hne hf).spells.unsigned
    have hfraction : spanFraction ('.' :: (fs ++ rest)) = ('.' :: fs, rest) := by
      show ('.' :: (fs ++ rest).takeWhile Char.isDigit, (fs ++ rest).dropWhile Char.isDigit) = _
      rw [takeWhile_append_stop hf hdigit, dropWhile_append_stop hf hdigit]
    unfold spanNumeral
    rw [List.append_assoc, List.cons_append]
    simp only [htake, hdrop, hfraction, spanExponent_stop hrest, List.append_nil, hunsigned]
    rfl

/-! ## texts and their tokens -/

/-- Outside of parentheses a text has these tokens, whenever there are steps for all its
characters. -/
def Scans (cs : List Char) (ts : List Token) : Prop :=
  ∀ fuel, cs.length ≤ fuel → scanFrom fuel 0 cs = some ts

variable {ts us : List Token} {c : Char}

theorem Scans.scan (h : Scans cs ts) : Plot.scan cs = some ts := h cs.length (Nat.le_refl _)

theorem Scans.nil : Scans [] [] := by
  intro fuel _
  cases fuel <;> rfl

/-- One step, and then the rest of the text. -/
theorem Scans.step (hstep : scanStep 0 c cs = some (ts, rest)) (hrest : rest.length ≤ cs.length)
    (hdepth : depthAfter 0 ts = 0) (h : Scans rest us) : Scans (c :: cs) (ts ++ us) := by
  intro fuel hfuel
  cases fuel with
  | zero => exact absurd hfuel (Nat.not_succ_le_zero _)
  | succ fuel =>
    have hlong : rest.length ≤ fuel := hrest.trans (Nat.le_of_succ_le_succ hfuel)
    rw [scanFrom, hstep]
    show (scanFrom fuel (depthAfter 0 ts) rest >>= fun us => some (ts ++ us)) = _
    rw [hdepth, h fuel hlong]
    rfl

theorem Scans.plus (h : Scans rest us) : Scans ('+' :: rest) (.plus :: us) :=
  have hstep : scanStep 0 '+' rest = some ([.plus], rest) := rfl
  .step hstep (Nat.le_refl _) rfl h

theorem Scans.minus (h : Scans rest us) : Scans ('-' :: rest) (.minus :: us) :=
  have hstep : scanStep 0 '-' rest = some ([.minus], rest) := rfl
  .step hstep (Nat.le_refl _) rfl h

theorem Scans.power (h : Scans rest us) : Scans ('^' :: rest) (.power :: us) :=
  have hstep : scanStep 0 '^' rest = some ([.power], rest) := rfl
  .step hstep (Nat.le_refl _) rfl h

/-- A digit is no gap. -/
theorem isGap_of_isDigit (h : c.isDigit = true) : isGap c = false := by
  have hfeed : (c.toNat == 0x0C) = false := by
    rw [beq_eq_false_iff_ne]
    intro he
    have hchar : c = Char.ofNat 0x0C := by rw [← he, Char.ofNat_toNat]
    exact ne_of_class h (by decide) hchar
  unfold isGap
  rw [beq_eq_false_iff_ne.mpr (ne_of_class h (by decide : Char.isDigit ' ' = false)),
    beq_eq_false_iff_ne.mpr (ne_of_class h (by decide : Char.isDigit '\t' = false)), hfeed]
  rfl

theorem Scans.numeral (hcs : Writes cs d spelling) (hrest : ∀ c ∈ rest.head?, isStop c = true)
    (h : Scans rest us) : Scans (cs ++ rest) (.numeral d spelling :: us) := by
  have hspan := spanNumeral_writes hcs hrest
  obtain ⟨c, ds, rfl, hc⟩ := hcs.head
  have hgap := isGap_of_isDigit hc
  have hstep : scanStep 0 c (ds ++ rest) = some ([.numeral d spelling], rest) := by
    have hstarts : startsNumeral (c :: (ds ++ rest)) = true := by
      show (c.isDigit || _) = true
      rw [hc, Bool.true_or]
    unfold scanStep
    rw [hgap, hstarts, ← List.cons_append, hspan]
    cases rest with
    | nil => simp
    | cons j rest =>
      have hj : isStop j = true := hrest j rfl
      simp [ne_of_class hj (by decide : isStop 'j' = false),
        ne_of_class hj (by decide : isStop 'J' = false)]
  refine Scans.step hstep ?_ rfl h
  rw [List.length_append]
  exact Nat.le_add_left _ _

theorem Scans.symbol (hrest : ∀ c ∈ rest.head?, Text.isWordChar c = false) (h : Scans rest us) :
    Scans ('x' :: rest) (.symbol ['x'] :: us) := by
  have htake : ([] ++ rest).takeWhile Text.isWordChar = [] := takeWhile_append_stop nofun hrest
  have hdrop : ([] ++ rest).dropWhile Text.isWordChar = rest := dropWhile_append_stop nofun hrest
  rw [List.nil_append] at htake hdrop
  have hopens : Text.opensName 'x' = true := by decide +kernel
  have hname : nameTokens? ['x'] = some [.symbol ['x']] := by decide +kernel
  have hstep : scanStep 0 'x' rest = some ([.symbol ['x']], rest) := by
    have hgap : (isGap 'x' || ('x' == '\n' && decide (0 < 0))) = false := by decide
    have hstarts : startsNumeral ('x' :: rest) = false := rfl
    unfold scanStep
    rw [hgap, hstarts, hopens, htake, hdrop, hname]
    rfl
  exact Scans.step hstep (Nat.le_refl _) rfl h

end

end AlgebraDesk.Plot
