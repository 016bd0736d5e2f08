import AlgebraDesk.Proofs.Decimal.Canonical
import AlgebraDesk.Proofs.Value.Number

/-!
# Showing what was read

The text of a finite double is read as the double nearest to the decimal that it spells, and that
double has the same text: it lies no farther from the decimal than the double that was shown.  A
number that is refused at a precision has no text to be read.

* `readCode`           what the text of a double is read as;
* `nearestTo_value`    it is the double nearest to the decimal of the text;
* `display_readCode`   and it is shown as before;
* `displayAt_stable`   both, at a precision that is a value.
-/

namespace AlgebraDesk.Decimal

open Double (Magnitude infinityCode isWhole nearest nearestTo nearestCode signed)

/-- The double that is read from the text of another; a zero has lost its sign. -/
def readCode (places : Nat) (negative : Bool) (code : Nat) : Float :=
  Double.ofCode (negative && shownCode places code != 0) (shownCode places code)

section
variable {negative : Bool} {code : Nat}

theorem isFinite_readCode (places : Nat) (h : code < infinityCode) :
    (readCode places negative code).isFinite = true :=
  Double.isFinite_ofCode (shownCode_lt places h)

/-- Zero is read just of the text of zero. -/
theorem shownCode_bne_zero (places code : Nat) :
    (shownCode places code != 0) = (fixedUnits places (.ofCode code) != 0) := by
  rw [Bool.eq_iff_iff, bne_iff_ne, bne_iff_ne, ne_eq, ne_eq, shownCode_eq_zero]

/-- A sign in front of zero is not counted. -/
theorem signed_and_ne_zero (negative : Bool) (n : Nat) :
    signed (negative && n != 0) n = signed negative n := by
  rw [Double.signed_inj]
  refine ⟨rfl, ?_⟩
  by_cases hn : n = 0
  · exact .inl hn
  · exact .inr (by rw [bne_iff_ne.mpr hn, Bool.and_true])

/-- **What is read is the double nearest to the decimal that is shown.** -/
theorem nearestTo_value (places : Nat) (h : code < infinityCode) :
    nearestTo (canonical negative places (fixedUnits places (.ofCode code))).value
      = readCode places negative code := by
  have hnearest : nearest (negative && fixedUnits places (.ofCode code) != 0)
      (fixedUnits places (.ofCode code)) (tenTo places) = readCode places negative code := by
    have hmin : min (nearestCode (fixedUnits places (.ofCode code)) (tenTo places)) infinityCode
        = shownCode places code := Nat.min_eq_left (Nat.le_of_lt (shownCode_lt places h))
    unfold nearest readCode
    rw [hmin, shownCode_bne_zero]
  have hpositive : readCode places negative code ≠ -0 := by
    unfold readCode
    rw [Double.negativeZero_eq_ofCode, ne_eq,
      Double.ofCode_inj (shownCode_lt places h) (by decide)]
    rintro ⟨hsign, hcode⟩
    rw [hcode, bne_self_eq_false, Bool.and_false] at hsign
    cases hsign
  rw [value_canonical, ← signed_and_ne_zero, ← cast_tenTo,
    ← Double.nearest_eq_nearestTo (tenTo_pos places) (hnearest ▸ hpositive), hnearest]

/-- **What was read is shown as before.** -/
theorem display_readCode (places : Int) (h : code < infinityCode) :
    display places (readCode (min places.toNat maxPlaces) negative code)
      = display places (Double.ofCode negative code) := by
  generalize hp : min places.toNat maxPlaces = p
  have hcode := shownCode_lt p h
  have hsign : signChars (negative && shownCode p code != 0) (fixedUnits p (.ofCode code))
      = signChars negative (fixedUnits p (.ofCode code)) := by
    unfold signChars
    rw [shownCode_bne_zero, Bool.and_assoc, Bool.and_self]
  rw [← String.toList_inj]
  unfold readCode
  rw [display_ofCode places hcode, display_ofCode places h, hp, displayMagnitude_eq,
    displayMagnitude_eq, fixedUnits_shownCode, hsign]

theorem isWhole_ofCode (h : code < infinityCode) :
    isWhole (Double.ofCode negative code) = (Magnitude.ofCode code).isWhole := by
  unfold isWhole
  rw [Double.form_ofCode h]

/-- A whole number is read as one. -/
theorem isWhole_readCode (places : Nat) (h : code < infinityCode)
    (hwhole : isWhole (Double.ofCode negative code) = true) :
    isWhole (readCode places negative code) = true := by
  rw [isWhole_ofCode h] at hwhole
  unfold readCode
  rw [shownCode_of_units places (units_of_isWhole hwhole), isWhole_ofCode h, hwhole]

/-- **The text of a finite double, what is read of it, and what that is shown as.** -/
theorem exists_read {x : Float} (hx : x.isFinite = true) (places : Int) :
    ∃ n : Canonical, (display places x).toList = n.chars ∧
      real? (display places x).toList = some (nearestTo n.value) ∧
      (nearestTo n.value).isFinite = true ∧
      (isWhole x = true → isWhole (nearestTo n.value) = true) ∧
      display places (nearestTo n.value) = display places x := by
  obtain ⟨negative, code, hcode, rfl⟩ := Double.eq_ofCode_of_isFinite hx
  refine ⟨canonical negative (min places.toNat maxPlaces)
    (fixedUnits (min places.toNat maxPlaces) (.ofCode code)), ?_, ?_, ?_, ?_, ?_⟩
  · rw [display_ofCode places hcode, displayMagnitude_eq, chars_canonical]
  · rw [nearestTo_value _ hcode, real_display places hcode]
    rfl
  · rw [nearestTo_value _ hcode]
    exact isFinite_readCode _ hcode
  · rw [nearestTo_value _ hcode]
    exact isWhole_readCode _ hcode
  · rw [nearestTo_value _ hcode, display_readCode places hcode]

end

end AlgebraDesk.Decimal

namespace AlgebraDesk.Value

open Decimal (Canonical readCode)
open Double (isWhole nearestTo)

variable {x : Float}

/-- **Showing is stable under reading.**  What is shown of a finite double, read and shown again at
the same precision gives the same; where the double is shown at all, its text is read as the double
nearest to the decimal that the text spells, and that double has the same text. -/
theorem displayAt_stable (hx : x.isFinite = true) {usual places : Int} {precision : Value}
    (hasks : AsksFor usual precision places) :
    (displayAt usual precision (.real x) >>= fun text => readReal (.text text) >>= fun y =>
      displayAt usual precision (.real y)) = displayAt usual precision (.real x) ∧
    (places ≤ placesLimit ∨ isWhole x = true →
      ∃ (text : String) (n : Canonical), displayAt usual precision (.real x) = .ok text ∧
        text.toList = n.chars ∧ readReal (.text text) = .ok (nearestTo n.value) ∧
        (nearestTo n.value).isFinite = true ∧
        displayAt usual precision (.real (nearestTo n.value)) = .ok text) := by
  have hshown : places ≤ placesLimit ∨ isWhole x = true →
      ∃ (text : String) (n : Canonical), displayAt usual precision (.real x) = .ok text ∧
        text.toList = n.chars ∧ readReal (.text text) = .ok (nearestTo n.value) ∧
        (nearestTo n.value).isFinite = true ∧
        displayAt usual precision (.real (nearestTo n.value)) = .ok text := by
    intro hplaces
    have hnot : ∀ {y : Float}, (isWhole x = true → isWhole y = true) →
        ¬ (placesLimit < places ∧ isWhole y = false) := by
      rintro y hy ⟨hlarge, hfrac⟩
      rcases hplaces with h | h
      · omega
      · exact Bool.noConfusion ((hy h).symm.trans hfrac)
    obtain ⟨n, htext, hread, hfinite, hwhole, hagain⟩ := Decimal.exists_read hx places
    refine ⟨_, n, ?_, htext, ?_, hfinite, ?_⟩
    · rw [displayAt_real hx hasks, if_neg (hnot id)]
    · rw [readReal_text, hread]
    · rw [displayAt_real hfinite hasks, if_neg (hnot hwhole), hagain]
  refine ⟨?_, hshown⟩
  by_cases hrefused : placesLimit < places ∧ isWhole x = false
  · -- there is no text at all
    rw [displayAt_real hx hasks, if_pos hrefused]
    rfl
  · have hplaces : places ≤ placesLimit ∨ isWhole x = true := by
      rw [not_and_or, Bool.not_eq_false, Int.not_lt] at hrefused
      exact hrefused
    obtain ⟨text, n, htext, _, hread, _, hagain⟩ := hshown hplaces
    rw [htext, ok_bind, hread, ok_bind, hagain]

/-- A number that no decimal text spells exactly, at the most places of all. -/
theorem displayAt_stable_tenth :
    (0.1 : Float).isFinite = true ∧ AsksFor 4 (.int 2147483647) 2147483647 ∧
    ∃ (text : String) (n : Canonical), displayAt 4 (.int 2147483647) (.real 0.1) = .ok text ∧
      text.toList = n.chars ∧ readReal (.text text) = .ok (nearestTo n.value) ∧
      displayAt 4 (.int 2147483647) (.real (nearestTo n.value)) = .ok text := by
  have hx : (0.1 : Float).isFinite = true := by decide +kernel
  have hasks : AsksFor 4 (.int 2147483647) 2147483647 := .inl rfl
  obtain ⟨text, n, hshown, hchars, hread, _, hagain⟩ :=
    (displayAt_stable hx hasks).2 (.inl (by decide))
  exact ⟨hx, hasks, text, n, hshown, hchars, hread, hagain⟩

/-- Beyond the limit a half has no text to be read. -/
theorem displayAt_stable_not_always :
    displayAt 4 (.int 2147483648) (.real 0.5) = .error .badValue ∧
    ¬ ∀ (x : Float) (places : Int), x.isFinite = true → 0 ≤ places →
      ∃ text y, displayAt 4 (.int places) (.real x) = .ok text ∧
        readReal (.text text) = .ok y ∧ displayAt 4 (.int places) (.real y) = .ok text := by
  have hx : (0.5 : Float).isFinite = true := by decide +kernel
  have hwhole : isWhole (0.5 : Float) = false := by decide +kernel
  have h : displayAt 4 (.int 2147483648) (.real 0.5) = .error .badValue := by
    rw [displayAt_real hx (.inl rfl), if_pos ⟨by decide, hwhole⟩]
  refine ⟨h, fun hall => ?_⟩
  obtain ⟨text, _, htext, _, _⟩ := hall 0.5 2147483648 hx (by decide)
  rw [h] at htext
  cases htext

end AlgebraDesk.Value
