import AlgebraDesk.Proofs.Double.Integer
import AlgebraDesk.Proofs.Polynomial.Extraction
import AlgebraDesk.Proofs.Polynomial.Factors

/-!
# Products with stars

A signed term is a product of factors with a star between two of them.  The stars are removed before
anything is read, so a term adds the number that its literals spell next to each other.

* `Product`               a signed term of factors;
* `coefficientsIn`        what the terms of one degree add;
* `InRange`               literals, products and sums are doubles;
* `extract?_products`     what is extracted from a sum of such terms.
-/

namespace AlgebraDesk.Polynomial

open Decimal (IsSign Spells digitsValue twoTo)
open Double (integer IsSmall nearest)

structure Product where
  sign : List Char
  factors : List Factor
  signed : IsSign sign
  factors_ne_nil : factors ≠ []

namespace Product

/-- A term as it is written, with its stars. -/
def chars (q : Product) : List Char := q.sign ++ ['*'].intercalate (q.factors.map Factor.chars)

def negative (q : Product) : Bool := q.sign == ['-']

def degree (q : Product) : Nat := degreeOf q.factors

/-- What a term adds to the coefficient of its degree. -/
def coefficient (q : Product) : Int := Double.signed q.negative (number q.factors)

/-- What is added without the stars. -/
def joined (q : Product) : Float := nearest q.negative (joinedNumber q.factors) 1

variable {q : Product}

theorem body_not_sign (q : Product) : ∀ c ∈ joinedChars q.factors, isSign c = false := by
  intro c hc
  obtain ⟨f, _, hf⟩ := List.mem_flatMap.mp hc
  exact (f.plain c hf).1

theorem body_ne_nil (q : Product) : joinedChars q.factors ≠ [] :=
  mt joinedChars_eq_nil.mp q.factors_ne_nil

theorem filter_starred (fs : List Factor) :
    (['*'].intercalate (fs.map Factor.chars)).filter (· != '*') = joinedChars fs := by
  have hchars : ∀ f : Factor, f.chars.filter (· != '*') = f.chars := fun f =>
    List.filter_eq_self.mpr fun c hc => bne_iff_ne.mpr (f.plain c hc).2.1
  induction fs with
  | nil => rfl
  | cons f fs ih =>
    cases fs with
    | nil =>
      rw [List.map_singleton, List.intercalate_singleton, hchars, joinedChars_cons]
      exact (List.append_nil _).symm
    | cons g fs =>
      have hstar : ['*'].intercalate ((f :: g :: fs).map Factor.chars)
          = f.chars ++ '*' :: ['*'].intercalate ((g :: fs).map Factor.chars) := rfl
      rw [hstar, List.filter_append, hchars, List.filter_cons_of_neg (by decide), ih,
        ← joinedChars_cons]

/-- Without its stars a term is its sign and its factors one after the other. -/
theorem chars_filter (q : Product) :
    (q.chars.filter (· != '*')).map (fun c => if c == 'X' then 'x' else c)
      = q.sign ++ joinedChars q.factors := by
  have hsign : q.sign.filter (· != '*') = q.sign := by
    refine List.filter_eq_self.mpr fun c hc => ?_
    rcases q.signed.mem c hc with rfl | rfl <;> decide
  have hletter : ∀ c ∈ q.sign ++ joinedChars q.factors, (if c == 'X' then 'x' else c) = c := by
    intro c hc
    have hne : c ≠ 'X' := by
      rcases List.mem_append.mp hc with hc | hc
      · rcases q.signed.mem c hc with rfl | rfl <;> decide
      · obtain ⟨f, _, hf⟩ := List.mem_flatMap.mp hc
        exact (f.plain c hf).2.2.1
    exact if_neg fun h => hne (beq_iff_eq.mp h)
  unfold chars
  rw [List.filter_append, hsign, filter_starred, List.map_congr_left hletter, List.map_id']

/-- **A written term that is a term with its stars removed** has its degree and the value of its
literals next to each other. -/
theorem of_summand {t : Summand} (h : t.chars = q.sign ++ joinedChars q.factors) :
    IsReadable q.factors ∧ t.sign = q.sign ∧ t.degree = q.degree ∧ t.value = q.joined := by
  obtain ⟨hsign, hbody⟩ := signed_inj t.signed q.signed t.body_not_sign q.body_not_sign h
  have hdigits : ∀ c ∈ t.numeral, Text.isDigit c = true := by
    intro c hc
    have hjoined : c ∈ joinedChars q.factors := hbody ▸ List.mem_append_left _ hc
    obtain ⟨f, _, hf⟩ := List.mem_flatMap.mp hjoined
    have hpoint : (c == '.') = false := beq_false_of_ne (f.plain c hf).2.2.2
    have hplain := t.numeral_plain c hc
    unfold Decimal.isDecimalChar at hplain
    rwa [hpoint, Bool.or_false] at hplain
  obtain ⟨hreadable, hnumeral, hdegree⟩ :=
    isReadable_of_joinedChars hdigits t.marked hbody.symm
  refine ⟨hreadable, hsign, hdegree, ?_⟩
  have hreal := t.real_value
  unfold Summand.coefficientChars at hreal
  unfold joined joinedNumber negative
  rw [← hsign, ← hnumeral]
  by_cases hnil : literals q.factors = []
  · have hempty : t.numeral = [] := by rw [hnumeral, hnil]; rfl
    rw [if_pos hempty, Summand.spells_one.real t.signed, Decimal.toFloat_whole] at hreal
    rw [if_pos hnil]
    exact (Option.some.inj hreal).symm
  · have hfull : t.numeral ≠ [] := by
      obtain ⟨ds, rest, hcons⟩ := List.exists_cons_of_ne_nil hnil
      have hds := literals_digits q.factors ds (hcons ▸ List.mem_cons_self)
      rw [hnumeral, hcons, List.flatten_cons]
      exact List.append_ne_nil_of_left_ne_nil hds.1 _
    rw [if_neg hfull, (Spells.whole hfull hdigits).real t.signed, Decimal.toFloat_whole] at hreal
    rw [if_neg hnil]
    exact (Option.some.inj hreal).symm

theorem exists_summand_of_isReadable (h : IsReadable q.factors) :
    ∃ t : Summand, t.chars = q.sign ++ joinedChars q.factors := by
  obtain ⟨mark, hmark, hjoined⟩ := joinedChars_of_isReadable h
  have hdigits : ∀ c ∈ (literals q.factors).flatten, Text.isDigit c = true := by
    intro c hc
    obtain ⟨ds, hds, hcds⟩ := List.mem_flatten.mp hc
    exact (literals_digits q.factors ds hds).2 c hcds
  have hspelled : (literals q.factors).flatten = [] ∨
      ∃ d, Spells (literals q.factors).flatten d := by
    by_cases hnil : (literals q.factors).flatten = []
    · exact .inl hnil
    · exact .inr ⟨_, .whole hnil hdigits⟩
  have hconstant : mark = [] → (literals q.factors).flatten ≠ [] := by
    rintro rfl hnil
    rw [hnil] at hjoined
    exact q.body_ne_nil hjoined
  refine ⟨⟨q.sign, (literals q.factors).flatten, mark, q.degree, q.signed, hspelled, hmark,
    hconstant⟩, ?_⟩
  rw [hjoined]
  rfl

end Product

/-! ## the whole sum -/

/-- What is added in one degree, from the left. -/
def joinedIn (degree : Nat) (ps : List Product) : List Float :=
  (ps.filter (·.degree == degree)).map Product.joined

/-- What the terms of one degree add, with the stars. -/
def coefficientsIn (degree : Nat) (ps : List Product) : List Int :=
  (ps.filter (·.degree == degree)).map Product.coefficient

/-- Literals, products and partial sums have a magnitude of at most 2 ^ 53. -/
structure InRange (ps : List Product) : Prop where
  literal : ∀ q ∈ ps, ∀ ds ∈ literals q.factors, digitsValue ds ≤ twoTo 53
  product : ∀ q ∈ ps, number q.factors ≤ twoTo 53
  partialSum : ∀ degree i, IsSmall ((coefficientsIn degree ps).take i).sum

section
variable {ps : List Product} {ts : List Summand}

/-- A sum of one term has no other partial sums than zero and its coefficient. -/
theorem inRange_singleton {q : Product} (hliteral : ∀ ds ∈ literals q.factors,
    digitsValue ds ≤ twoTo 53) (hproduct : number q.factors ≤ twoTo 53) : InRange [q] := by
  have hzero : IsSmall 0 := Nat.zero_le _
  refine ⟨List.forall_mem_singleton.mpr hliteral, List.forall_mem_singleton.mpr hproduct,
    fun degree i => ?_⟩
  unfold coefficientsIn
  by_cases h : q.degree = degree
  · rw [List.filter_cons, if_pos (beq_iff_eq.mpr h)]
    cases i with
    | zero => exact hzero
    | succ i =>
      show IsSmall (q.coefficient + (List.take i []).sum)
      rw [List.take_nil, List.sum_nil, Int.add_zero]
      exact (Double.natAbs_signed _ _).le.trans hproduct
  · rw [List.filter_cons, if_neg (by rwa [beq_iff_eq])]
    show IsSmall (List.take i []).sum
    rw [List.take_nil]
    exact hzero

/-- The terms of a sum without its stars, one for each product. -/
theorem of_summands
    (h : ts.map Summand.chars = ps.map fun q => q.sign ++ joinedChars q.factors) :
    (∀ q ∈ ps, IsReadable q.factors) ∧ ts.map Summand.sign = ps.map Product.sign ∧
      ∀ degree, valuesOf degree ts = joinedIn degree ps := by
  induction ps generalizing ts with
  | nil =>
    obtain rfl := List.map_eq_nil_iff.mp h
    exact ⟨nofun, rfl, fun _ => rfl⟩
  | cons q ps ih =>
    obtain ⟨t, us, rfl, ht, hus⟩ := List.map_eq_cons_iff.mp h
    obtain ⟨hreadable, hsign, hdegree, hvalue⟩ := Product.of_summand ht
    obtain ⟨hreadables, hsigns, hvalues⟩ := ih hus
    refine ⟨List.forall_mem_cons.mpr ⟨hreadable, hreadables⟩, ?_, fun degree => ?_⟩
    · rw [List.map_cons, List.map_cons, hsign, hsigns]
    · have hrest := hvalues degree
      unfold valuesOf joinedIn at *
      rw [List.filter_cons, List.filter_cons, hdegree]
      split
      · rw [List.map_cons, List.map_cons, hvalue, hrest]
      · exact hrest

theorem exists_summands_of_isReadable (h : ∀ q ∈ ps, IsReadable q.factors) :
    ∃ ts : List Summand,
      ts.map Summand.chars = ps.map fun q => q.sign ++ joinedChars q.factors := by
  induction ps with
  | nil => exact ⟨[], rfl⟩
  | cons q ps ih =>
    rw [List.forall_mem_cons] at h
    obtain ⟨t, ht⟩ := Product.exists_summand_of_isReadable h.1
    obtain ⟨ts, hts⟩ := ih h.2
    exact ⟨t :: ts, by rw [List.map_cons, List.map_cons, ht, hts]⟩

theorem normalize_products {text : List Char}
    (h : Text.removeBlanks text = ps.flatMap Product.chars) :
    normalize text = ps.flatMap fun q => q.sign ++ joinedChars q.factors := by
  unfold normalize
  rw [h]
  clear h
  induction ps with
  | nil => rfl
  | cons q ps ih =>
    rw [List.flatMap_cons, List.flatMap_cons, List.filter_append, List.map_append, ih,
      q.chars_filter]

theorem splitTerms_products (h : SignsFit (ps.map Product.sign)) :
    splitTerms (ps.flatMap fun q => q.sign ++ joinedChars q.factors)
      = some (ps.map fun q => q.sign ++ joinedChars q.factors) :=
  splitTerms_signed (fun q => ⟨q.signed, q.body_ne_nil, q.body_not_sign⟩) h

/-- **What is extracted from a sum of products.** -/
theorem extract?_products_iff {text : List Char} {p : Polynomial}
    (hsigns : SignsFit (ps.map Product.sign))
    (htext : Text.removeBlanks text = ps.flatMap Product.chars) :
    extract? text = some p ↔ (∀ q ∈ ps, IsReadable q.factors) ∧
      p = ⟨(joinedIn 2 ps).foldl (· + ·) 0, (joinedIn 1 ps).foldl (· + ·) 0,
        (joinedIn 0 ps).foldl (· + ·) 0⟩ ∧ p.isFinite = true := by
  have hsums : ∀ {ts : List Summand}, (∀ degree, valuesOf degree ts = joinedIn degree ps) →
      sums ts = ⟨(joinedIn 2 ps).foldl (· + ·) 0, (joinedIn 1 ps).foldl (· + ·) 0,
        (joinedIn 0 ps).foldl (· + ·) 0⟩ := by
    intro ts hvalues
    unfold sums sumOf
    rw [hvalues, hvalues, hvalues]
  rw [extract?_eq_some, normalize_products htext]
  constructor
  · rintro ⟨ts, hts, hspelled, rfl, hfinite⟩
    have hsplit := splitTerms_spelled hts
    rw [← hspelled, splitTerms_products hsigns] at hsplit
    obtain ⟨hreadable, _, hvalues⟩ := of_summands (Option.some.inj hsplit).symm
    exact ⟨hreadable, hsums hvalues, hfinite⟩
  · rintro ⟨hreadable, hp, hfinite⟩
    obtain ⟨ts, hts⟩ := exists_summands_of_isReadable hreadable
    obtain ⟨_, hsign, hvalues⟩ := of_summands hts
    refine ⟨ts, ?_, ?_, hp.trans (hsums hvalues).symm, hfinite⟩
    · unfold IsSum
      rwa [hsign]
    · rw [List.flatMap_def, List.flatMap_def, hts]

/-- Where the literals spell the products, the coefficients are added exactly. -/
theorem foldl_joinedIn (hjoined : ∀ q ∈ ps, joinedNumber q.factors = number q.factors)
    (hrange : InRange ps) (degree : Nat) :
    (joinedIn degree ps).foldl (· + ·) 0 = integer (coefficientsIn degree ps).sum := by
  let ks := (ps.filter (·.degree == degree)).map fun q => (q.negative, number q.factors)
  have hvalues : joinedIn degree ps = ks.map fun k => nearest k.1 k.2 1 := by
    unfold joinedIn
    rw [List.map_map]
    refine List.map_congr_left fun q hq => ?_
    unfold Product.joined
    rw [hjoined q (List.mem_of_mem_filter hq)]
    rfl
  have hcoefficients : coefficientsIn degree ps = ks.map fun k => Double.signed k.1 k.2 := by
    unfold coefficientsIn
    rw [List.map_map]
    rfl
  have hsmall : ∀ k ∈ ks, k.2 ≤ twoTo 53 := by
    rw [List.forall_mem_map]
    exact fun q hq => hrange.product q (List.mem_of_mem_filter hq)
  have hsums : ∀ i, IsSmall (0 + ((ks.take i).map fun k => Double.signed k.1 k.2).sum) := by
    intro i
    rw [Int.zero_add, List.map_take, ← hcoefficients]
    exact hrange.partialSum degree i
  rw [hvalues, hcoefficients, ← Double.integer_zero, Double.foldl_add_small hsmall hsums,
    Int.zero_add]

/-- **Stars are read as multiplication where no two numbers meet.**  A sum of products is extracted
exactly when a variable stands only as the last factor of a term; each term then adds the number
that its literals spell without the stars.  This is their product just when there is at most one of
them, or all are zero; and when it is in every term, the coefficients are those of the sum. -/
theorem extract?_products (text : List Char) (ps : List Product)
    (hsigns : SignsFit (ps.map Product.sign))
    (htext : Text.removeBlanks text = ps.flatMap Product.chars) (p : Polynomial) :
    (extract? text = some p ↔ (∀ q ∈ ps, IsReadable q.factors) ∧
      p = ⟨(joinedIn 2 ps).foldl (· + ·) 0, (joinedIn 1 ps).foldl (· + ·) 0,
        (joinedIn 0 ps).foldl (· + ·) 0⟩ ∧ p.isFinite = true) ∧
    (∀ q ∈ ps, joinedNumber q.factors = number q.factors ↔
      (literals q.factors).length ≤ 1 ∨ ∀ ds ∈ literals q.factors, digitsValue ds = 0) ∧
    ((∀ q ∈ ps, joinedNumber q.factors = number q.factors) → InRange ps →
      extract? text = some p →
        p = ⟨integer (coefficientsIn 2 ps).sum, integer (coefficientsIn 1 ps).sum,
          integer (coefficientsIn 0 ps).sum⟩) := by
  have hiff := extract?_products_iff (p := p) hsigns htext
  refine ⟨hiff, fun q _ => joinedNumber_eq_number, fun hjoined hrange hp => ?_⟩
  rw [(hiff.mp hp).2.1, foldl_joinedIn hjoined hrange, foldl_joinedIn hjoined hrange,
    foldl_joinedIn hjoined hrange]

theorem extract?_two_times_x : ∃ q : Product, SignsFit [q.sign] ∧
    Text.removeBlanks ['2', ' ', '*', ' ', 'x'] = q.chars ∧
    joinedNumber q.factors = number q.factors ∧ InRange [q] ∧
    extract? ['2', ' ', '*', ' ', 'x'] = some ⟨0, 2, 0⟩ ∧
    (⟨0, 2, 0⟩ : Polynomial) = ⟨integer 0, integer 2, integer 0⟩ := by
  let q : Product := ⟨[], [.literal ['2'] (List.cons_ne_nil _ _)
    (Decimal.isDigit_of_mem_singleton (by decide)), .x], .none, List.cons_ne_nil _ _⟩
  have hsigns : SignsFit ([q].map Product.sign) := nofun
  have htext : Text.removeBlanks ['2', ' ', '*', ' ', 'x'] = [q].flatMap Product.chars := by
    decide
  have hreadable : ∀ q' ∈ [q], IsReadable q'.factors :=
    List.forall_mem_singleton.mpr (isReadable_cons_literal.mpr (isReadable_singleton _))
  have hjoined : joinedNumber q.factors = number q.factors := by decide
  have hrange : InRange [q] := by
    refine inRange_singleton ?_ (by decide)
    show ∀ ds ∈ [['2']], digitsValue ds ≤ twoTo 53
    decide
  have hsum : [nearest false 2 1].foldl (· + ·) 0 = 2 := by decide +kernel
  obtain ⟨hiff, _, hmeaning⟩ := extract?_products _ [q] hsigns htext ⟨0, 2, 0⟩
  have hread : extract? ['2', ' ', '*', ' ', 'x'] = some ⟨0, 2, 0⟩ := by
    refine hiff.mpr ⟨hreadable, ?_, by decide +kernel⟩
    rw [← hsum]
    rfl
  exact ⟨q, hsigns, htext, hjoined, hrange, hread,
    hmeaning (List.forall_mem_singleton.mpr hjoined) hrange hread⟩

/-- Two numbers with a star between them are not multiplied: `2*3` is read as 23. -/
theorem stars_not_always_multiplication : ¬ ∀ (text : List Char) (ps : List Product)
    (p : Polynomial), SignsFit (ps.map Product.sign) →
      Text.removeBlanks text = ps.flatMap Product.chars → InRange ps → extract? text = some p →
        p = ⟨integer (coefficientsIn 2 ps).sum, integer (coefficientsIn 1 ps).sum,
          integer (coefficientsIn 0 ps).sum⟩ := by
  intro h
  let q : Product := ⟨[], [.literal ['2'] (List.cons_ne_nil _ _)
    (Decimal.isDigit_of_mem_singleton (by decide)), .literal ['3'] (List.cons_ne_nil _ _)
    (Decimal.isDigit_of_mem_singleton (by decide))], .none, List.cons_ne_nil _ _⟩
  have hrange : InRange [q] := by
    refine inRange_singleton ?_ (by decide)
    show ∀ ds ∈ [['2'], ['3']], digitsValue ds ≤ twoTo 53
    decide
  have hread : (extract? ['2', '*', '3']).map (·.c) = some 23 := by decide +kernel
  obtain ⟨p, hp, hc⟩ := Option.map_eq_some_iff.mp hread
  have hmeaning := congrArg Polynomial.c (h ['2', '*', '3'] [q] p nofun (by decide) hrange hp)
  have hsix : p.c = integer 6 := hmeaning
  rw [hc] at hsix
  exact absurd hsix (by decide +kernel)

end

end AlgebraDesk.Polynomial
