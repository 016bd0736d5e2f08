import AlgebraDesk.Proofs.Double.Nearest
import Mathlib

/-!
# Doubles by sign and code

The 64 bits of a finite double are its sign and the code of its magnitude.  So a finite double is
known by these two, and what the arithmetic sees of it are the mantissa and the scale of that
magnitude.

* `word`, `parts`   the bits, and what the arithmetic sees;
* `eq_ofCode_of_isFinite`, `ofCode_inj`   a finite double is a sign and a code, in one way;
* `unpack_ofCode`, `ofCode_eq_pack`   from the double to its parts and back;
* `form_ofCode`, `abs_ofCode`, `lt_zero_ofCode`, `beq_ofCode`   what is asked about a double.
-/

namespace AlgebraDesk.Double

open Decimal (twoTo)
open Float.Model (UnpackedFloat Format)
open Float.Model.UnpackedFloat

/-! ## the fields of a word -/

section
variable (b : BitVec 64)

theorem toNat_exponentField :
    (@unpackExponent Format.binary64 b).toNat = b.toNat / 4503599627370496 % 2048 := by
  unfold unpackExponent
  rw [BitVec.toNat_cast, BitVec.extractLsb_toNat, Nat.shiftRight_eq_div_pow]
  rfl

theorem toNat_mantissaField :
    (@unpackMantissa Format.binary64 b).toNat = b.toNat % 4503599627370496 := by
  unfold unpackMantissa
  rw [BitVec.toNat_cast, BitVec.extractLsb_toNat, Nat.shiftRight_eq_div_pow, Nat.pow_zero,
    Nat.div_one]
  rfl

theorem toNat_signField :
    (@unpackSign Format.binary64 b).toNat = b.toNat / 9223372036854775808 % 2 := by
  unfold unpackSign
  rw [BitVec.toNat_cast, BitVec.extractLsb_toNat, Nat.shiftRight_eq_div_pow]
  rfl

end

/-- The word of a double. -/
def word (negative : Bool) (code : Nat) : BitVec 64 :=
  BitVec.ofNat 64 ((if negative then signWeight else 0) + code)

def sign (negative : Bool) : Sign := if negative then .negative else .positive

/-- The parts of a finite double. -/
def parts (negative : Bool) (m : Magnitude) : UnpackedFloat :=
  if h : m.mantissa = 0 then .zero (sign negative)
  else .finite (sign negative) m.mantissa (m.scale - unitExponent) (Nat.pos_of_ne_zero h)

section
variable {negative : Bool} {code : Nat}

theorem infinityCode_eq : infinityCode = 9218868437227405312 := by decide
theorem signWeight_eq : signWeight = 9223372036854775808 := by decide

theorem toNat_word (h : code < signWeight) :
    (word negative code).toNat = (if negative then 9223372036854775808 else 0) + code := by
  rw [signWeight_eq] at h
  unfold word
  rw [BitVec.toNat_ofNat, signWeight_eq]
  cases negative <;> simp <;> omega

theorem signField_word (h : code < signWeight) :
    Sign.ofBitVec (@unpackSign Format.binary64 (word negative code)) = sign negative := by
  have hs := toNat_signField (word negative code)
  rw [toNat_word h] at hs
  rw [signWeight_eq] at h
  unfold Sign.ofBitVec sign
  cases negative with
  | false =>
    rw [if_pos]
    · rfl
    · apply BitVec.eq_of_toNat_eq
      rw [hs]
      simp
      omega
  | true =>
    rw [if_neg]
    · rfl
    · intro h0
      rw [h0] at hs
      simp at hs
      omega

/-- Below the code of infinity the field of the exponent is not full. -/
theorem fields_word (h : code < infinityCode) :
    (@unpackExponent Format.binary64 (word negative code)).toNat
        = code / 4503599627370496 ∧
      (@unpackMantissa Format.binary64 (word negative code)).toNat
        = code % 4503599627370496 ∧ code / 4503599627370496 < 2047 := by
  rw [toNat_exponentField, toNat_mantissaField, toNat_word (h.trans (by decide))]
  rw [infinityCode_eq] at h
  cases negative <;> simp <;> omega

theorem parts_ofCode_low (h : code < 4503599627370496) :
    parts negative (.ofCode code) = if h : code = 0 then .zero (sign negative)
      else .finite (sign negative) code (-1074) (Nat.pos_of_ne_zero h) := by
  have hcode : Magnitude.ofCode code = ⟨code, 0⟩ := if_pos (by rw [twoTo_53]; omega)
  rw [hcode]
  rfl

theorem parts_ofCode_high (h : 4503599627370496 ≤ code) :
    parts negative (.ofCode code) = .finite (sign negative)
      (4503599627370496 + code % 4503599627370496) ((code / 4503599627370496 : Nat) - 1075)
      (Nat.add_pos_left (by decide) _) := by
  unfold parts Magnitude.ofCode
  rw [twoTo_52, twoTo_53]
  by_cases hlow : code < 9007199254740992
  · rw [if_pos hlow]
    rw [dif_neg (by show code ≠ 0; omega)]
    rw [UnpackedFloat.finite.injEq]
    refine ⟨rfl, ?_, ?_⟩
    · show code = _
      omega
    · show ((0 : Nat) : Int) - (1074 : Nat) = _
      omega
  · rw [if_neg hlow]
    rw [dif_neg (by show 4503599627370496 + code % 4503599627370496 ≠ 0; omega)]
    rw [UnpackedFloat.finite.injEq]
    refine ⟨rfl, rfl, ?_⟩
    show ((code / 4503599627370496 - 1 : Nat) : Int) - (1074 : Nat) = _
    omega

theorem parts_zero (negative : Bool) : parts negative (.ofCode 0) = .zero (sign negative) :=
  parts_ofCode_low (by decide)

theorem parts_of_pos (negative : Bool) (h : code ≠ 0) :
    ∃ hm : 0 < (Magnitude.ofCode code).mantissa, parts negative (.ofCode code)
      = .finite (sign negative) (Magnitude.ofCode code).mantissa
          ((Magnitude.ofCode code).scale - unitExponent) hm := by
  have hm : (Magnitude.ofCode code).mantissa ≠ 0 := by
    intro h0
    have hu : (Magnitude.ofCode code).units = (Magnitude.ofCode 0).units := by
      rw [Magnitude.units_ofCode_zero]
      unfold Magnitude.units
      rw [h0, Nat.zero_mul]
    exact h (Magnitude.units_inj.mp hu)
  exact ⟨Nat.pos_of_ne_zero hm, dif_neg hm⟩

theorem unpack_word (h : code < infinityCode) :
    unpack Format.binary64 (word negative code) = parts negative (.ofCode code) := by
  obtain ⟨hexp, hman, hlt⟩ := @fields_word negative code h
  have hfull : @unpackExponent Format.binary64 (word negative code) ≠ -BitVec.ofNat 11 1 := by
    intro he
    rw [he] at hexp
    have hvalue : (-BitVec.ofNat 11 1).toNat = 2047 := by decide
    omega
  have hzero : ∀ {n : Nat} (v : BitVec n), v = 0#n ↔ v.toNat = 0 := by
    intro n v
    rw [← BitVec.toNat_inj]
    simp
  rw [unpack.eq_1, signField_word (h.trans (by decide)), if_neg hfull]
  simp only [hzero, hexp, hman]
  rcases Nat.lt_or_ge code 4503599627370496 with hlow | hhigh
  · rw [parts_ofCode_low hlow, if_pos (Nat.div_eq_of_lt hlow)]
    simp only [Nat.mod_eq_of_lt hlow, Nat.div_eq_of_lt hlow]
    rfl
  · rw [parts_ofCode_high hhigh, if_neg (by omega)]
    rw [UnpackedFloat.finite.injEq]
    refine ⟨rfl, ?_, rfl⟩
    rw [BitVec.toNat_append, ← Nat.shiftLeft_add_eq_or_of_lt (BitVec.isLt _), hman]
    rfl

/-! ## doubles by sign and code -/

theorem ofCode_eq_pack (h : code < infinityCode) :
    ofCode negative code = ⟨.pack (parts negative (.ofCode code))⟩ := by
  rw [← unpack_word h]
  rfl

theorem isNaNBits_word (h : code < infinityCode) :
    @isNaNBits Format.binary64 (word negative code) = false := by
  obtain ⟨hexp, _, hlt⟩ := @fields_word negative code h
  unfold isNaNBits
  rw [decide_eq_false_iff_not]
  rintro ⟨he, _⟩
  rw [he] at hexp
  have hvalue : (-BitVec.ofNat Format.binary64.exponentBits 1).toNat = 2047 := by decide
  omega

theorem pack_unpack_word (h : code < infinityCode) :
    pack Format.binary64 (unpack Format.binary64 (word negative code)) = word negative code := by
  rw [pack_unpack, isNaNBits_word h]
  rfl

theorem toBits_ofCode (h : code < infinityCode) :
    (ofCode negative code).toBits.toNat
      = (if negative then 9223372036854775808 else 0) + code := by
  have hbits : (ofCode negative code).toBits.toBitVec = word negative code := pack_unpack_word h
  rw [← UInt64.toNat_toBitVec, hbits]
  exact toNat_word (h.trans (by decide))

theorem unpack_ofCode (h : code < infinityCode) :
    (ofCode negative code).toModel.unpack = parts negative (.ofCode code) := by
  rw [← unpack_word h]
  exact congrArg (unpack Format.binary64) (pack_unpack_word h)

theorem ofCode_inj {negative' : Bool} {code' : Nat} (h : code < infinityCode)
    (h' : code' < infinityCode) :
    ofCode negative code = ofCode negative' code' ↔ negative = negative' ∧ code = code' := by
  constructor
  · intro e
    have hbits := congrArg (fun x => x.toBits.toNat) e
    simp only [toBits_ofCode h, toBits_ofCode h'] at hbits
    rw [infinityCode_eq] at h h'
    cases negative <;> cases negative' <;> simp at hbits ⊢ <;> omega
  · rintro ⟨rfl, rfl⟩
    rfl

theorem form_ofCode (h : code < infinityCode) :
    form (ofCode negative code) = .finite negative (.ofCode code) := by
  have hbits := @toBits_ofCode negative code h
  have hsmall : code < 9218868437227405312 := h.trans_eq infinityCode_eq
  have hnegative : decide (signWeight ≤ (ofCode negative code).toBits.toNat) = negative := by
    rw [hbits, signWeight_eq]
    cases negative
    · simp
      omega
    · simp
  have hcode : (ofCode negative code).toBits.toNat % signWeight = code := by
    rw [hbits, signWeight_eq]
    cases negative <;> simp <;> omega
  unfold form
  simp only [hnegative, hcode, if_pos h]

theorem isFinite_ofCode (h : code < infinityCode) : (ofCode negative code).isFinite = true := by
  show (ofCode negative code).toModel.unpack.isFinite = true
  rw [unpack_ofCode h]
  unfold parts
  split <;> rfl

theorem exists_word (x : Float) :
    ∃ negative code, code < signWeight ∧ x.toBits.toBitVec = word negative code := by
  have hlt : x.toBits.toNat < 18446744073709551616 := x.toBits.toNat_lt
  have hcode : x.toBits.toNat % signWeight < signWeight := Nat.mod_lt _ (by decide)
  refine ⟨signWeight ≤ x.toBits.toNat, x.toBits.toNat % signWeight, hcode, ?_⟩
  apply BitVec.eq_of_toNat_eq
  rw [toNat_word hcode, UInt64.toNat_toBitVec, signWeight_eq]
  by_cases hs : 9223372036854775808 ≤ x.toBits.toNat
  · rw [if_pos (decide_eq_true hs)]
    omega
  · rw [if_neg (by simpa using hs)]
    omega

theorem eq_ofCode_of_word {x : Float} (h : x.toBits.toBitVec = word negative code) :
    x = ofCode negative code := by
  rw [← Float.ofBits_toBits x]
  exact congrArg (fun b => Float.ofBits ⟨b⟩) h

/-- What is read as finite is finite. -/
theorem eq_ofCode_of_form {x : Float} {m : Magnitude} (h : form x = .finite negative m) :
    ∃ code, code < infinityCode ∧ x = ofCode negative code ∧ m = .ofCode code := by
  obtain ⟨sign, code, hcode, hword⟩ := exists_word x
  have hx := eq_ofCode_of_word hword
  rcases Nat.lt_or_ge code infinityCode with hlt | hge
  · rw [hx, form_ofCode hlt] at h
    cases h
    exact ⟨code, hlt, hx, rfl⟩
  · -- the code is that of an infinity, or of what is not a number
    have hbits : x.toBits.toNat % signWeight = code := by
      rw [← UInt64.toNat_toBitVec, hword, toNat_word hcode]
      rw [signWeight_eq] at hcode ⊢
      split <;> omega
    unfold form at h
    simp only [hbits, if_neg (Nat.not_lt.mpr hge)] at h
    split at h <;> cases h

/-- **A finite double is a sign and a code.** -/
theorem eq_ofCode_of_isFinite {x : Float} (h : x.isFinite = true) :
    ∃ negative code, code < infinityCode ∧ x = ofCode negative code := by
  obtain ⟨negative, code, hcode, hword⟩ := exists_word x
  have hx := eq_ofCode_of_word hword
  refine ⟨negative, code, ?_, hx⟩
  by_contra hlarge
  -- the field of the exponent is full
  have hfull : @unpackExponent Format.binary64 (word negative code)
      = -BitVec.ofNat Format.binary64.exponentBits 1 := by
    apply BitVec.eq_of_toNat_eq
    rw [toNat_exponentField, toNat_word hcode]
    have hvalue : (-BitVec.ofNat Format.binary64.exponentBits 1).toNat = 2047 := by decide
    rw [infinityCode_eq] at hlarge
    rw [signWeight_eq] at hcode
    cases negative <;> simp <;> omega
  have hunpack : x.toModel.unpack = unpack Format.binary64 (word negative code) :=
    congrArg (unpack Format.binary64) hword
  have hfinite : x.toModel.unpack.isFinite = true := h
  rw [hunpack, unpack.eq_1, if_pos hfull] at hfinite
  split at hfinite <;> cases hfinite

theorem abs_ofCode (h : code < infinityCode) : (ofCode negative code).abs = ofCode false code := by
  rw [@ofCode_eq_pack false code h]
  show (⟨.pack (UnpackedFloat.abs (ofCode negative code).toModel.unpack)⟩ : Float) = _
  rw [unpack_ofCode h]
  unfold parts
  split <;> rfl

/-! ## comparisons -/

theorem zero_eq_ofCode : (0 : Float) = ofCode false 0 := by rfl

theorem negativeZero_eq_ofCode : (-0 : Float) = ofCode true 0 := by rfl

/-- the code of one -/
def oneCode : Nat := 1023 * twoTo 52

theorem one_eq_ofCode : (1 : Float) = ofCode false oneCode := by rfl

theorem negativeOne_eq_ofCode : (-1 : Float) = ofCode true oneCode := by rfl

theorem ofCode_ne_nan (h : code < infinityCode) : ofCode negative code ≠ Float.nan := by
  intro e
  have hfinite := @isFinite_ofCode negative code h
  rw [e] at hfinite
  cases hfinite

/-- Equal doubles are the same, but for the sign of zero. -/
theorem beq_ofCode {negative' : Bool} {code' : Nat} (h : code < infinityCode)
    (h' : code' < infinityCode) : (ofCode negative code == ofCode negative' code') = true ↔
      code = code' ∧ (code = 0 ∨ negative = negative') := by
  have hzero : (0 : Nat) < infinityCode := by decide
  rw [Float.beq_iff_ne_nan_and_eq, negativeZero_eq_ofCode, zero_eq_ofCode, ofCode_inj h h',
    ofCode_inj h hzero, ofCode_inj h hzero, ofCode_inj h' hzero, ofCode_inj h' hzero]
  constructor
  · rintro ⟨_, _, ⟨hn, hc⟩ | ⟨⟨_, hc⟩, _, hc'⟩ | ⟨⟨_, hc⟩, _, hc'⟩⟩
    · exact ⟨hc, .inr hn⟩
    · exact ⟨hc.trans hc'.symm, .inl hc⟩
    · exact ⟨hc.trans hc'.symm, .inl hc⟩
  · rintro ⟨rfl, hc⟩
    refine ⟨ofCode_ne_nan h, ofCode_ne_nan h', ?_⟩
    rcases hc with rfl | rfl
    · cases negative <;> cases negative' <;> simp
    · exact .inl ⟨rfl, rfl⟩

theorem beq_zero_ofCode (h : code < infinityCode) : (ofCode negative code == 0) = (code == 0) := by
  rw [zero_eq_ofCode, Bool.eq_iff_iff, beq_ofCode h (by decide), beq_iff_eq]
  exact ⟨And.left, fun e => ⟨e, .inl e⟩⟩

theorem beq_one_ofCode (h : code < infinityCode) :
    (ofCode false code == 1) = (code == oneCode) := by
  rw [one_eq_ofCode, Bool.eq_iff_iff, beq_ofCode h (by decide), beq_iff_eq]
  exact ⟨And.left, fun e => ⟨e, .inr rfl⟩⟩

theorem lt_zero_ofCode (h : code < infinityCode) :
    ofCode negative code < 0 ↔ negative = true ∧ code ≠ 0 := by
  show decide ((ofCode negative code).toModel < (0 : Float).toModel) = true ↔ _
  rw [decide_eq_true_iff]
  show (UnpackedFloat.compare (ofCode negative code).toModel.unpack
    (0 : Float).toModel.unpack == some .lt) = true ↔ _
  rw [zero_eq_ofCode, unpack_ofCode h, unpack_ofCode (by decide), parts_zero]
  by_cases hc : code = 0
  · rw [hc, parts_zero]
    simp [UnpackedFloat.compare]
  · obtain ⟨hm, hparts⟩ := parts_of_pos negative hc
    rw [hparts]
    cases negative <;> simp [UnpackedFloat.compare, sign, hc]

end

/-- A positive number is not negative. -/
theorem not_lt_zero {x : Float} (h : x > 0) : ¬ x < 0 := by
  have hgt : (UnpackedFloat.compare (0 : Float).toModel.unpack x.toModel.unpack == some .lt)
      = true := of_decide_eq_true h
  intro hneg
  have hlt : (UnpackedFloat.compare x.toModel.unpack (0 : Float).toModel.unpack == some .lt)
      = true := of_decide_eq_true hneg
  rw [zero_eq_ofCode, unpack_ofCode (by decide), parts_zero] at hgt hlt
  cases hx : x.toModel.unpack with
  | notANumber =>
    rw [hx] at hlt
    cases hlt
  | infinity s =>
    rw [hx] at hgt hlt
    cases s
    · cases hgt
    · cases hlt
  | zero s =>
    rw [hx] at hlt
    cases hlt
  | finite s m e hm =>
    rw [hx] at hgt hlt
    cases s
    · cases hgt
    · cases hlt

end AlgebraDesk.Double
