import AlgebraDesk.Proofs.Decimal.Display
import AlgebraDesk.Proofs.Double.Rational
import AlgebraDesk.Value.Display
import Mathlib.Algebra.Order.Field.Basic

/-!
# The one way to show a number

A finite double is shown as a decimal in its shortest form, which has no zeros in front and none at
the end of its fraction, and no negative zero.  The decimal is the multiple of a power of ten
nearest to the double, the even one when there are two, however many places are asked for; so a
whole number is shown exactly.

A value is shown in this way at every precision up to a limit.  Beyond it only whole numbers are
shown, which do not look at the precision.

* `Canonical`          a decimal in its shortest form, with its characters and its value;
* `IsNearest`          the multiple of 10 ^ -places nearest to a fraction, a half going to even;
* `canonical_display`  what a finite double is shown as;
* `display_integer`    an integer that is a double;
* `displayAt_real`     what a double is shown as at a precision that is a value;
* `displayAt_shown`    both.
-/

namespace AlgebraDesk.Decimal

open Double (Magnitude signed unitsPerOne unitsPerOne_pos infinityCode rational)

/-! ## decimals in their shortest form -/

/-- The form `-?(0|[1-9][0-9]*)(\.[0-9]*[1-9])?`, by its parts. -/
structure Canonical where
  negative : Bool
  whole : List Char
  frac : List Char
  whole_digits : ∀ c ∈ whole, c.isDigit = true
  whole_head : whole = ['0'] ∨ ∃ c ∈ whole.head?, c ≠ '0'
  frac_digits : ∀ c ∈ frac, c.isDigit = true
  frac_last : ∀ c ∈ frac.getLast?, c ≠ '0'

namespace Canonical

def chars (n : Canonical) : List Char :=
  (if n.negative then ['-'] else []) ++ (n.whole ++ if n.frac = [] then [] else '.' :: n.frac)

/-- The exact value that the digits spell. -/
def value (n : Canonical) : Rat :=
  signed n.negative (digitsValue (n.whole ++ n.frac)) / 10 ^ n.frac.length

theorem exists_whole (n : Canonical) : ∃ c cs, n.whole = c :: cs ∧ c.isDigit = true := by
  have hne : n.whole ≠ [] := by
    rcases n.whole_head with h | ⟨c, hc, -⟩
    · rw [h]
      exact List.cons_ne_nil _ _
    · rintro h
      rw [h] at hc
      cases hc
  obtain ⟨c, cs, h⟩ := List.exists_cons_of_ne_nil hne
  exact ⟨c, cs, h, n.whole_digits c (by rw [h]; exact List.mem_cons_self)⟩

/-- A negative zero is negative and zero. -/
theorem of_chars_minus_zero {n : Canonical} (h : n.chars = ['-', '0']) :
    n.negative = true ∧ n.value = 0 := by
  obtain ⟨c, cs, hwhole, hc⟩ := n.exists_whole
  unfold chars at h
  cases hn : n.negative with
  | false =>
    rw [hn, if_neg Bool.false_ne_true, List.nil_append, hwhole] at h
    obtain rfl : c = '-' := (List.cons.inj h).1
    exact absurd hc (by decide)
  | true =>
    rw [hn, if_pos rfl, hwhole] at h
    have hbody : c :: cs ++ (if n.frac = [] then [] else '.' :: n.frac) = ['0'] :=
      (List.cons.inj h).2
    obtain ⟨rfl, htail⟩ : c = '0' ∧ cs ++ (if n.frac = [] then [] else '.' :: n.frac) = [] :=
      List.cons.inj hbody
    obtain ⟨rfl, hfrac⟩ := List.append_eq_nil_iff.mp htail
    have hfrac' : n.frac = [] := by
      by_contra hne
      rw [if_neg hne] at hfrac
      cases hfrac
    refine ⟨rfl, ?_⟩
    have hzero : digitsValue ['0'] = 0 := by decide
    rw [value, hwhole, hfrac', List.append_nil, hzero, Double.signed_eq_zero.mpr rfl,
      Int.cast_zero, zero_div]

end Canonical

/-! ## the digits that are shown -/

section
variable {places units : Nat}

/-- A number other than zero does not begin with a zero. -/
theorem head_digits {n : Nat} (hn : n ≠ 0) : ∃ c ∈ (digits n).head?, c ≠ '0' := by
  obtain ⟨c, cs, hdigits⟩ := List.exists_cons_of_ne_nil (digits_ne_nil n)
  refine ⟨c, by rw [hdigits]; rfl, ?_⟩
  rintro rfl
  have hlarge := tenTo_length_le hn
  have hvalue := digitsValue_digits n
  have hzero : digitsValue ['0'] = 0 := by decide
  rw [hdigits, ← List.singleton_append, digitsValue_append, hzero, Nat.zero_mul,
    Nat.zero_add] at hvalue
  have hsmall := digitsValue_lt cs
  rw [hvalue] at hsmall
  rw [hdigits, List.length_cons, Nat.add_sub_cancel] at hlarge
  omega

theorem getLast_dropTrailingZeros (cs : List Char) :
    ∀ c ∈ (dropTrailingZeros cs).getLast?, c ≠ '0' := by
  intro c hc
  unfold dropTrailingZeros at hc
  rw [List.getLast?_reverse] at hc
  have h := head_dropWhile (· == '0') cs.reverse c hc
  simpa using h

/-- A multiple of 10 ^ -places in its shortest form. -/
def canonical (negative : Bool) (places units : Nat) : Canonical where
  negative := negative && units != 0
  whole := wholePart places units
  frac := dropTrailingZeros (placesPart places units)
  whole_digits := fun _ => isDigit_of_mem_digits
  whole_head := by
    unfold wholePart
    by_cases h : units / tenTo places = 0
    · rw [h]
      exact .inl digits_zero
    · exact .inr (head_digits h)
  frac_digits := by
    intro c hc
    obtain ⟨k, hk⟩ := dropTrailingZeros_append (placesPart places units)
    have hmem : c ∈ placesPart places units := by
      rw [← hk]
      exact List.mem_append_left _ hc
    exact isDigit_of_mem_placesPart hmem
  frac_last := getLast_dropTrailingZeros _

theorem chars_canonical (negative : Bool) (places units : Nat) :
    (canonical negative places units).chars
      = signChars negative units ++ trimmedChars places units := by
  show (if (negative && units != 0) = true then ['-'] else []) ++ (wholePart places units
    ++ if dropTrailingZeros (placesPart places units) = [] then []
      else '.' :: dropTrailingZeros (placesPart places units)) = _
  unfold signChars trimmedChars
  cases dropTrailingZeros (placesPart places units) with
  | nil => rw [if_pos rfl, List.append_nil]
  | cons c cs => rw [if_neg (List.cons_ne_nil c cs)]

theorem length_frac_canonical (negative : Bool) (places units : Nat) :
    (canonical negative places units).frac.length ≤ places := by
  obtain ⟨k, hlength, -⟩ := exists_dropped places units
  show (dropTrailingZeros (placesPart places units)).length ≤ places
  omega

theorem cast_tenTo (n : Nat) : ((tenTo n : Nat) : Rat) = 10 ^ n := Nat.cast_pow 10 n

/-- **The shortest form has the value of the multiple.** -/
theorem value_canonical (negative : Bool) (places units : Nat) :
    (canonical negative places units).value = signed negative units / 10 ^ places := by
  obtain ⟨k, hlength, hvalue⟩ := exists_dropped places units
  have hsign (n : Nat) : (signed (negative && n * tenTo k != 0) n : Rat) * 10 ^ k
      = signed negative (n * tenTo k) := by
    rcases Nat.eq_zero_or_pos n with rfl | hn
    · rw [Nat.zero_mul, Double.signed_eq_zero.mpr rfl, Double.signed_eq_zero.mpr rfl,
        Int.cast_zero, zero_mul]
    · have hne : (n * tenTo k != 0) = true :=
        bne_iff_ne.mpr (Nat.ne_of_gt (Nat.mul_pos hn (tenTo_pos k)))
      rw [hne, Bool.and_true, ← cast_tenTo]
      cases negative <;> simp [signed]
  have hten : (10 : Rat) ^ k ≠ 0 := by positivity
  show (signed (negative && units != 0) (digitsValue (wholePart places units
    ++ dropTrailingZeros (placesPart places units))) : Rat)
      / 10 ^ (dropTrailingZeros (placesPart places units)).length = _
  generalize digitsValue (wholePart places units ++ _) = w at hvalue ⊢
  generalize (dropTrailingZeros (placesPart places units)).length = f at hlength ⊢
  rw [← hvalue, ← hsign, ← hlength, pow_add, mul_div_mul_right _ _ hten]

end

/-! ## the nearest multiple -/

/-- `k` is the multiple of 10 ^ -places nearest to `v`, an even one when there are two. -/
structure IsNearest (places : Nat) (v : Rat) (k : Int) : Prop where
  near : ∀ j : Int, |(k : Rat) / 10 ^ places - v| ≤ |(j : Rat) / 10 ^ places - v|
  even : ∀ j : Int, j ≠ k → |(k : Rat) / 10 ^ places - v| = |(j : Rat) / 10 ^ places - v| → Even k

section
variable {places : Nat} {v : Rat} {k : Int}

/-- A multiple is nearest to itself. -/
theorem isNearest_of_eq (h : (k : Rat) / 10 ^ places = v) : IsNearest places v k := by
  have hten : (10 : Rat) ^ places ≠ 0 := by positivity
  constructor
  · intro j
    rw [h, sub_self, abs_zero]
    exact abs_nonneg _
  · intro j hne heq
    rw [h, sub_self, abs_zero] at heq
    have hj : (j : Rat) / 10 ^ places = k / 10 ^ places :=
      (sub_eq_zero.mp (abs_eq_zero.mp heq.symm)).trans h.symm
    exact absurd (Int.cast_injective ((div_left_inj' hten).mp hj)) hne

/-- An integer is nearest to itself. -/
theorem IsNearest.eq_of_integer {n : Int} (h : IsNearest places n k) :
    (k : Rat) / 10 ^ places = n := by
  have hten : (10 : Rat) ^ places ≠ 0 := by positivity
  have hnear := h.near (n * 10 ^ places)
  rw [Int.cast_mul, Int.cast_pow, Int.cast_ofNat, mul_div_cancel_right₀ _ hten, sub_self,
    abs_zero] at hnear
  exact sub_eq_zero.mp (abs_eq_zero.mp (le_antisymm hnear (abs_nonneg _)))

end

section
variable {num den : Nat} {j : Int}

/-- Another multiple of the divisor is a step away, from one side of the quotient or the other. -/
theorem step_le (den : Nat) {r j : Int} (hne : j ≠ r) (num : Nat) :
    den ≤ (r * den - num).natAbs + (j * den - num).natAbs := by
  have hstep : den ≤ (r * den - j * den).natAbs := by
    rw [← Int.sub_mul, Int.natAbs_mul, Int.natAbs_natCast]
    exact Nat.le_mul_of_pos_left _ (Int.natAbs_pos.mpr (sub_ne_zero.mpr hne.symm))
  omega

theorem natAbs_roundHalfEven (num den : Nat) :
    ((roundHalfEven num den : Int) * den - num).natAbs
      = Nat.dist (roundHalfEven num den * den) num := by
  unfold Nat.dist
  rw [← Nat.cast_mul]
  omega

/-- No integer multiple of the divisor is nearer than the rounded quotient. -/
theorem natAbs_roundHalfEven_le (num : Nat) (hden : 0 < den) (j : Int) :
    ((roundHalfEven num den : Int) * den - num).natAbs ≤ (j * den - num).natAbs := by
  by_cases hne : j = roundHalfEven num den
  · rw [hne]
  · have hstep := step_le den hne num
    have hhalf := dist_roundHalfEven num hden
    rw [← natAbs_roundHalfEven num den] at hhalf
    omega

/-- When another one is as near, the rounded quotient is even. -/
theorem even_roundHalfEven (hden : 0 < den) (hne : j ≠ roundHalfEven num den)
    (heq : ((roundHalfEven num den : Int) * den - num).natAbs = (j * den - num).natAbs) :
    roundHalfEven num den % 2 = 0 := by
  have hstep := step_le den hne num
  have hhalf := dist_roundHalfEven num hden
  refine even_of_dist_eq hden ?_
  rw [← natAbs_roundHalfEven num den] at hhalf ⊢
  omega

end

/-! ## rounding to places -/

section
variable {places : Nat}

/-- the distance of two fractions, as one of integers -/
theorem abs_sub_eq (places : Nat) (k n : Int) {den : Nat} (hden : 0 < den) :
    |(k : Rat) / 10 ^ places - n / den|
      = (k * den - n * tenTo places).natAbs / (10 ^ places * den) := by
  have hten : (10 : Rat) ^ places ≠ 0 := by positivity
  have hden' : (0 : Rat) < den := Nat.cast_pos.mpr hden
  have hscale : (0 : Rat) < 10 ^ places * den := by positivity
  rw [div_sub_div _ _ hten (ne_of_gt hden'), abs_div, abs_of_pos hscale, Nat.cast_natAbs,
    Int.cast_abs, Int.cast_sub, Int.cast_mul, Int.cast_mul, Int.cast_natCast, Int.cast_natCast,
    cast_tenTo, mul_comm (10 ^ places) (n : Rat)]

/-- Rounding a fraction on this side of zero. -/
theorem isNearest_roundHalfEven (places num : Nat) {den : Nat} (hden : 0 < den) :
    IsNearest places ((num : Int) / den) (roundHalfEven (num * tenTo places) den) := by
  have hscale : (0 : Rat) < 10 ^ places * den := by positivity
  constructor
  · intro j
    rw [abs_sub_eq places _ _ hden, abs_sub_eq places _ _ hden, ← Int.natCast_mul num]
    refine div_le_div_of_nonneg_right (Nat.cast_le.mpr ?_) (le_of_lt hscale)
    exact natAbs_roundHalfEven_le _ hden j
  · intro j hne heq
    rw [abs_sub_eq places _ _ hden, abs_sub_eq places _ _ hden, ← Int.natCast_mul num,
      div_left_inj' (ne_of_gt hscale), Nat.cast_inj] at heq
    exact (Int.even_coe_nat _).mpr (Nat.even_iff.mpr (even_roundHalfEven hden hne heq))

theorem IsNearest.neg {v : Rat} {k : Int} (h : IsNearest places v k) :
    IsNearest places (-v) (-k) := by
  have hflip (j : Int) :
      |(j : Rat) / 10 ^ places - -v| = |((-j : Int) : Rat) / 10 ^ places - v| := by
    rw [← abs_neg, Int.cast_neg]
    congr 1
    ring
  constructor
  · intro j
    rw [hflip, hflip, neg_neg]
    exact h.near (-j)
  · intro j hne heq
    rw [hflip, hflip, neg_neg] at heq
    exact (h.even (-j) (fun e => hne (neg_eq_iff_eq_neg.mp e)) heq).neg

/-- **Rounding to places gives the nearest multiple**, on both sides of zero. -/
theorem isNearest_fixedUnits (negative : Bool) (places : Nat) (m : Magnitude) :
    IsNearest places (signed negative m.units / unitsPerOne)
      (signed negative (fixedUnits places m)) := by
  have h : IsNearest places ((m.units : Int) / unitsPerOne) (fixedUnits places m) :=
    isNearest_roundHalfEven places m.units unitsPerOne_pos
  cases negative with
  | false => exact h
  | true =>
    have hneg := h.neg
    rw [← neg_div, ← Int.cast_neg] at hneg
    exact hneg

theorem twoTo_dvd_tenTo (n : Nat) : twoTo n ∣ tenTo n := pow_dvd_pow_of_dvd (by decide : 2 ∣ 10) n

/-- At the most places that a double has, it is a multiple itself. -/
theorem fixedUnits_maxPlaces (m : Magnitude) :
    fixedUnits maxPlaces m * unitsPerOne = m.units * tenTo maxPlaces := by
  have hdvd : unitsPerOne ∣ tenTo maxPlaces := twoTo_dvd_tenTo Double.unitExponent
  obtain ⟨k, hk⟩ := hdvd.mul_left m.units
  unfold fixedUnits
  rw [hk, Nat.mul_comm unitsPerOne k, roundHalfEven_mul k unitsPerOne_pos]

/-- **More places than a double has change nothing**: the multiple that is shown is the nearest at
any number of places. -/
theorem exists_isNearest (negative : Bool) (places : Nat) (m : Magnitude) :
    ∃ k : Int, IsNearest places (signed negative m.units / unitsPerOne) k ∧
      (signed negative (fixedUnits (min places maxPlaces) m) : Rat) / 10 ^ min places maxPlaces
        = k / 10 ^ places := by
  rcases Nat.le_total places maxPlaces with h | h
  · rw [Nat.min_eq_left h]
    exact ⟨_, isNearest_fixedUnits negative places m, rfl⟩
  · rw [Nat.min_eq_right h]
    obtain ⟨more, rfl⟩ := Nat.exists_eq_add_of_le h
    have hten : (10 : Rat) ^ more ≠ 0 := by positivity
    have hsame : (signed negative (fixedUnits maxPlaces m) : Rat) / 10 ^ maxPlaces
        = signed negative m.units / unitsPerOne := by
      rw [← cast_tenTo, div_eq_div_iff (Nat.cast_ne_zero.mpr (Nat.ne_of_gt (tenTo_pos _)))
        Double.unitsPerOne_ne_zero]
      have hunits := congrArg (signed negative) (fixedUnits_maxPlaces m)
      rw [← Double.signed_mul, ← Double.signed_mul] at hunits
      exact_mod_cast hunits
    have hk : ((signed negative (fixedUnits maxPlaces m) * 10 ^ more : Int) : Rat)
        / 10 ^ (maxPlaces + more) = signed negative (fixedUnits maxPlaces m) / 10 ^ maxPlaces := by
      rw [Int.cast_mul, Int.cast_pow, Int.cast_ofNat, pow_add, mul_div_mul_right _ _ hten]
    exact ⟨_, isNearest_of_eq (hk.trans hsame), hk.symm⟩

end

/-! ## what is shown -/

section
variable {x : Float}

/-- **A finite double is shown as a decimal in its shortest form**, whatever the precision is: no
negative zero, no more places than asked for, and the nearest multiple at that many places; an
integer is shown exactly. -/
theorem canonical_display (hx : x.isFinite = true) (places : Int) :
    ∃ n : Canonical, (display places x).toList = n.chars ∧ n.chars ≠ ['-', '0'] ∧
      n.frac.length ≤ places.toNat ∧ (∀ i : Int, rational x = i → n.value = i) ∧
      ∃ k : Int, IsNearest places.toNat (rational x) k ∧ n.value = k / 10 ^ places.toNat := by
  obtain ⟨negative, code, hcode, rfl⟩ := Double.eq_ofCode_of_isFinite hx
  have hrational : rational (Double.ofCode negative code)
      = signed negative (Magnitude.ofCode code).units / unitsPerOne := by
    rw [rational, Double.units_ofCode hcode]
  obtain ⟨k, hnear, hk⟩ := exists_isNearest negative places.toNat (.ofCode code)
  rw [← hrational] at hnear
  rw [← value_canonical] at hk
  refine ⟨canonical negative (min places.toNat maxPlaces)
    (fixedUnits (min places.toNat maxPlaces) (.ofCode code)), ?_, ?_, ?_, ?_, k, hnear, hk⟩
  · rw [display_ofCode places hcode, displayMagnitude_eq, chars_canonical]
  · intro hchars
    obtain ⟨hneg, hzero⟩ := Canonical.of_chars_minus_zero hchars
    -- only a magnitude other than zero gets a minus sign
    have hne : fixedUnits (min places.toNat maxPlaces) (.ofCode code) ≠ 0 :=
      bne_iff_ne.mp (Bool.and_eq_true _ _ ▸ hneg).2
    rw [value_canonical, div_eq_zero_iff, Int.cast_eq_zero, Double.signed_eq_zero] at hzero
    rcases hzero with h | h
    · exact hne h
    · exact absurd h (by positivity)
  · exact (length_frac_canonical _ _ _).trans (Nat.min_le_left _ _)
  · intro i hi
    rw [hi] at hnear
    rw [hk, hnear.eq_of_integer]

theorem display_of_isWhole (hx : Double.isWhole x = true) (places usual : Int) :
    display usual x = display places x := by
  unfold Double.isWhole at hx
  unfold display
  split at hx
  · rename_i negative m hform
    rw [hform]
    dsimp only
    unfold displayMagnitude
    rw [if_pos hx, if_pos hx]
  · cases hx

theorem toString_int (n : Int) :
    toString n = String.ofList (signChars (n < 0) n.natAbs ++ digits n.natAbs) := by
  unfold signChars
  cases n with
  | ofNat k =>
    have hk : ¬ Int.ofNat k < 0 := Int.not_lt.mpr (Int.natCast_nonneg k)
    rw [decide_eq_false hk]
    rfl
  | negSucc k =>
    rw [decide_eq_true (Int.negSucc_lt_zero k), String.ofList_append]
    rfl

/-- An integer is shown with all its digits. -/
theorem display_integer (places : Int) {n : Int} (h : Double.IsSmall n) :
    display places (Double.integer n) = toString n := by
  obtain ⟨c, hc, he, hu⟩ := Double.integer_eq h
  have hwhole : (Magnitude.ofCode c).isWhole = true := by
    unfold Magnitude.isWhole
    rw [hu, Nat.mul_mod_left]
    rfl
  have htext := @display_ofCode c (n < 0) places hc
  unfold displayMagnitude at htext
  rw [if_pos hwhole, Double.whole_of_units hu, ← he] at htext
  rw [toString_int, ← htext, String.ofList_toList]

end

end AlgebraDesk.Decimal

namespace AlgebraDesk.Value

open Decimal (Canonical IsNearest)
open Double (isWhole rational)

variable {x : Float}

/-- The places asked for: those of the precision, or the usual ones when it is missing. -/
def AsksFor (usual : Int) (precision : Value) (places : Int) : Prop :=
  precision = .int places ∨ precision = .null ∧ usual = places

/-- **A number is shown at every precision up to the limit**, and a whole one beyond it. -/
theorem displayAt_real (hx : x.isFinite = true) {usual places : Int} {precision : Value}
    (hasks : AsksFor usual precision places) :
    displayAt usual precision (.real x)
      = if placesLimit < places ∧ isWhole x = false then .error .badValue
        else .ok (Decimal.display places x) := by
  have hsteps : displayAt usual precision (.real x)
      = if (!x.isFinite || isWhole x) = true then .ok (Decimal.display usual x)
        else if placesLimit < places then .error .badValue
        else .ok (Decimal.display places x) := by
    rcases hasks with rfl | ⟨rfl, rfl⟩ <;> rfl
  rw [hsteps, hx, Bool.not_true, Bool.false_or]
  cases hwhole : isWhole x with
  | true =>
    rw [if_pos rfl, if_neg (fun h => Bool.noConfusion h.2),
      Decimal.display_of_isWhole hwhole places usual]
  | false =>
    rw [if_neg Bool.false_ne_true]
    simp only [and_true]

end AlgebraDesk.Value
