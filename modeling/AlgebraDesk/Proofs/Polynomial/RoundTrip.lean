import AlgebraDesk.Proofs.Polynomial.Shown
import AlgebraDesk.Proofs.Value.Number

/-!
# Printing and extracting

What is printed of a polynomial is extracted again, each coefficient as its own text is read.  Whole
numbers come back exactly, zero without its sign.  Printing what was extracted gives the same text
unless a square or linear coefficient shows as `1` without being a unit: its numeral is printed the
first time and left out the second.

* `exists_extracted`  what is extracted from a text, and how that is printed;
* `extract?_display`  extracting undoes printing;
* `reprint_eq_iff`    what is printed of the polynomial that was extracted.
-/

namespace AlgebraDesk.Polynomial

open Decimal (real?)
open Double (integer IsSmall)

/-- What is extracted from a printed polynomial, and how that is printed. -/
theorem exists_extracted (places : Int) {p : Polynomial} (hp : p.isFinite = true) :
    ∃ q : Polynomial, extract? (p.displayChars places) = some q ∧ q.isFinite = true ∧
      (∀ x ∈ [(p.a, q.a), (p.b, q.b), (p.c, q.c)],
        real? (Decimal.display places x.1).toList = some x.2 ∧
        Coefficient.ofReal places x.2 = (Coefficient.ofReal places x.1).judged ∧
        (Double.isWhole x.1 = true → x.2 = if x.1 == 0 then 0 else x.1)) := by
  obtain ⟨ha, hb, hc⟩ := isFinite_iff.mp hp
  obtain ⟨a, hreada, hfina, hsaysa, hagaina, hwholea⟩ := Coefficient.exists_shown places ha
  obtain ⟨b, hreadb, hfinb, hsaysb, hagainb, hwholeb⟩ := Coefficient.exists_shown places hb
  obtain ⟨c, hreadc, hfinc, hsaysc, hagainc, hwholec⟩ := Coefficient.exists_shown places hc
  have hq : (⟨a, b, c⟩ : Polynomial).isFinite = true := isFinite_iff.mpr ⟨hfina, hfinb, hfinc⟩
  refine ⟨⟨a, b, c⟩, extract?_displayTerms hsaysa hsaysb hsaysc hq, hq, ?_⟩
  rw [List.forall_mem_cons, List.forall_mem_cons, List.forall_mem_singleton]
  exact ⟨⟨hreada, hagaina, hwholea⟩, ⟨hreadb, hagainb, hwholeb⟩, ⟨hreadc, hagainc, hwholec⟩⟩

/-- What was read of whole coefficients is whole. -/
theorem IsWhole.extracted {p q : Polynomial} (hp : p.IsWhole)
    (h : ∀ x ∈ [(p.a, q.a), (p.b, q.b), (p.c, q.c)],
      Double.isWhole x.1 = true → x.2 = if x.1 == 0 then 0 else x.1) : q.IsWhole := by
  have hzero : Double.isWhole 0 = true := by decide +kernel
  have hwhole : ∀ {x y : Float}, Double.isWhole x = true →
      (Double.isWhole x = true → y = if x == 0 then 0 else x) → Double.isWhole y = true := by
    intro x y hx hy
    rw [hy hx]
    split
    · exact hzero
    · exact hx
  unfold IsWhole at hp ⊢
  rw [List.forall_mem_cons, List.forall_mem_cons, List.forall_mem_singleton] at hp h ⊢
  exact ⟨hwhole hp.1 h.1, hwhole hp.2.1 h.2.1, hwhole hp.2.2 h.2.2⟩

theorem toList_display (places : Int) (p : Polynomial) :
    (p.display places).toList = p.displayChars places := by
  unfold display
  rw [String.toList_ofList]

/-- The text of a coefficient that is not refused, as it is read. -/
theorem readReal_displayAt {places : Int} {x y : Float} (hx : x.isFinite = true)
    (hplaces : places ≤ Value.placesLimit ∨ Double.isWhole x = true)
    (hread : real? (Decimal.display places x).toList = some y) :
    (Value.displayAt places .null (.real x) >>= fun text => Value.readReal (.text text)) = .ok y := by
  rw [Value.displayAt_null hx hplaces, ok_bind, Value.readReal_text, hread]

theorem extract?_ofIntegers (places : Int) {l m n : Int} (hl : IsSmall l) (hm : IsSmall m)
    (hn : IsSmall n) : extract? ((ofIntegers l m n).displayChars places) = some (ofIntegers l m n) :=
  extract?_displayTerms (Coefficient.readsAs_integer places hl)
    (Coefficient.readsAs_integer places hm) (Coefficient.readsAs_integer places hn)
    (isFinite_ofIntegers hl hm hn)

/-- **Extracting undoes printing** up to the display precision, and exactly for whole numbers and
small integers, wherever there is a text. -/
theorem extract?_display (places : Int) (p : Polynomial) (hp : p.isFinite = true)
    (hplaces : places ≤ Value.placesLimit ∨ p.IsWhole) :
    (∃ text q, Value.displayPolynomial places (.real p.a) (.real p.b) (.real p.c) = .ok text ∧
      extract? text.toList = some q ∧
      (∀ x ∈ [(p.a, q.a), (p.b, q.b), (p.c, q.c)],
        (Value.displayAt places .null (.real x.1) >>= fun t => Value.readReal (.text t))
          = .ok x.2) ∧
      (p.IsWhole → q = ⟨if p.a == 0 then 0 else p.a, if p.b == 0 then 0 else p.b,
        if p.c == 0 then 0 else p.c⟩)) ∧
    ∀ l m n : Int, IsSmall l → IsSmall m → IsSmall n → ∃ text,
      Value.displayPolynomial places (.int l) (.int m) (.int n) = .ok text ∧
      extract? text.toList = some ⟨integer l, integer m, integer n⟩ := by
  obtain ⟨q, hextract, _, hq⟩ := exists_extracted places hp
  rw [← toList_display] at hextract
  refine ⟨⟨_, q, Value.displayPolynomial_real hp hplaces, hextract, ?_, fun hwhole => ?_⟩,
    fun l m n hl hm hn => ⟨_, Value.displayPolynomial_int places hl hm hn, ?_⟩⟩
  · obtain ⟨ha, hb, hc⟩ := isFinite_iff.mp hp
    unfold IsWhole at hplaces
    rw [List.forall_mem_cons, List.forall_mem_cons, List.forall_mem_singleton] at hplaces hq ⊢
    exact ⟨readReal_displayAt ha (hplaces.imp_right fun h => h.1) hq.1.1,
      readReal_displayAt hb (hplaces.imp_right fun h => h.2.1) hq.2.1.1,
      readReal_displayAt hc (hplaces.imp_right fun h => h.2.2) hq.2.2.1⟩
  · unfold IsWhole at hwhole
    rw [List.forall_mem_cons, List.forall_mem_cons, List.forall_mem_singleton] at hwhole hq
    rw [← hq.1.2.2 hwhole.1, ← hq.2.1.2.2 hwhole.2.1, ← hq.2.2.2.2 hwhole.2.2]
  · rw [toList_display]
    exact extract?_ofIntegers places hl hm hn

/-- A half at the usual precision, and whole coefficients beyond the limit. -/
theorem extract?_display_half : (⟨2, -0.5, 7⟩ : Polynomial).isFinite = true ∧
    (4 : Int) ≤ Value.placesLimit ∧
    (∃ text q, Value.displayPolynomial 4 (.real 2) (.real (-0.5)) (.real 7) = .ok text ∧
      extract? text.toList = some q) ∧
    (⟨1e300, -0, 7⟩ : Polynomial).isFinite = true ∧ (⟨1e300, -0, 7⟩ : Polynomial).IsWhole ∧
    ∃ text, Value.displayPolynomial 2147483648 (.real 1e300) (.real (-0)) (.real 7) = .ok text ∧
      extract? text.toList = some ⟨1e300, 0, 7⟩ := by
  have hp : (⟨2, -0.5, 7⟩ : Polynomial).isFinite = true := by decide +kernel
  have hplaces : (4 : Int) ≤ Value.placesLimit := by decide
  have hq : (⟨1e300, -0, 7⟩ : Polynomial).isFinite = true := by decide +kernel
  have hwhole : (⟨1e300, -0, 7⟩ : Polynomial).IsWhole := by
    unfold IsWhole
    decide +kernel
  have hlarge : ¬ ((1e300 : Float) == 0) = true := by decide +kernel
  have hzero : ((-0 : Float) == 0) = true := by decide +kernel
  have hseven : ¬ ((7 : Float) == 0) = true := by decide +kernel
  obtain ⟨text, q, htext, hextract, _⟩ := (extract?_display 4 ⟨2, -0.5, 7⟩ hp (.inl hplaces)).1
  obtain ⟨text', q', htext', hextract', _, hexact⟩ :=
    (extract?_display 2147483648 ⟨1e300, -0, 7⟩ hq (.inr hwhole)).1
  have hq' := hexact hwhole
  rw [if_neg hlarge, if_pos hzero, if_neg hseven] at hq'
  exact ⟨hp, hplaces, ⟨text, q, htext, hextract⟩, hq, hwhole, text', htext', hq' ▸ hextract'⟩

/-- Beyond the limit a half has no text to be extracted. -/
theorem extract?_display_not_always :
    Value.displayPolynomial 2147483648 (.real 0.5) (.real 0) (.real 0) = .error .badValue ∧
    ¬ ∀ (places : Int) (p : Polynomial), p.isFinite = true → ∃ text q,
      Value.displayPolynomial places (.real p.a) (.real p.b) (.real p.c) = .ok text ∧
      extract? text.toList = some q := by
  have hp : (⟨0.5, 0, 0⟩ : Polynomial).isFinite = true := by decide +kernel
  have hlimit : Value.placesLimit < 2147483648 := by decide
  have hfrac : ¬ (⟨0.5, 0, 0⟩ : Polynomial).IsWhole := fun hwhole =>
    absurd (hwhole 0.5 List.mem_cons_self) (by decide +kernel)
  have hrefused := Value.displayPolynomial_refused hp hlimit hfrac
  refine ⟨hrefused, fun hall => ?_⟩
  obtain ⟨text, _, htext, _⟩ := hall 2147483648 ⟨0.5, 0, 0⟩ hp
  rw [hrefused] at htext
  cases htext

/-! ## printing again -/

section
variable {k : Coefficient} {power : List Char} {first : Bool}

/-- A coefficient that shows as `1` in front of a variable without being a unit. -/
def IsFalseUnit (k : Coefficient) (power : List Char) : Prop :=
  power ≠ [] ∧ k.numeral = ['1'] ∧ k.isUnit = false

theorem signOf_judged (hv : k.vanishes = false) (first : Bool) :
    signOf k.judged first = signOf k first := by
  unfold signOf Coefficient.judged
  rw [hv, Bool.not_false, Bool.and_true]

theorem numeralOf_judged (hk : k.IsShown) (h : ¬ IsFalseUnit k power) :
    numeralOf k.judged power = numeralOf k power := by
  unfold numeralOf Coefficient.judged
  by_cases hp : power = []
  · rw [hp]
    rfl
  · have hunit : (k.numeral == ['1']) = k.isUnit := by
      cases hu : k.isUnit with
      | true => exact beq_iff_eq.mpr (hk.unit hu)
      | false => exact beq_eq_false_iff_ne.mpr fun hone => h ⟨hp, hone, hu⟩
    simp only [hunit]

theorem displayTerm_judged (hk : k.IsShown) (hv : k.vanishes = false)
    (h : ¬ IsFalseUnit k power) (first : Bool) :
    displayTerm k.judged power first = displayTerm k power first := by
  rw [displayTerm_eq, displayTerm_eq, signOf_judged hv, numeralOf_judged hk h]

/-- The numeral of a false unit is left out the second time, so the texts part here. -/
theorem displayTerm_ne (hv : k.vanishes = false) (hpower : power.head? ≠ some '1')
    (h : IsFalseUnit k power) (cs ds : List Char) :
    displayTerm k power first ++ cs ≠ displayTerm k.judged power first ++ ds := by
  obtain ⟨hne, hone, hunit⟩ := h
  have hfull : numeralOf k power = ['1'] := by
    unfold numeralOf
    rw [hunit, Bool.and_false, if_neg Bool.false_ne_true, hone]
  have hnil : numeralOf k.judged power = [] := by
    unfold numeralOf Coefficient.judged
    simp [hone, hne]
  obtain ⟨c, rest, rfl⟩ := List.exists_cons_of_ne_nil hne
  intro e
  rw [displayTerm_eq, displayTerm_eq, signOf_judged hv, hfull, hnil] at e
  simp only [List.append_assoc, List.nil_append, List.cons_append] at e
  obtain ⟨rfl, _⟩ := List.cons.inj (List.append_cancel_left e)
  exact hpower rfl

theorem displayTerm_ne_nil (hk : k.IsShown) : displayTerm k power first ≠ [] := by
  rw [displayTerm_eq]
  refine List.append_ne_nil_of_right_ne_nil _ fun h => ?_
  obtain ⟨hnumeral, hpower⟩ := List.append_eq_nil_iff.mp h
  unfold numeralOf at hnumeral
  rw [hpower] at hnumeral
  exact hk.numeral_ne_nil hnumeral

end

section
variable {es : List (Coefficient × List Char)}

/-- The same powers with the coefficients as they are judged by their texts. -/
def judgedSum (es : List (Coefficient × List Char)) : List (Coefficient × List Char) :=
  es.map fun e => (e.1.judged, e.2)

theorem displaySum_eq_nil (h : ∀ e ∈ es, e.1.IsShown) (first : Bool) :
    displaySum first es = [] ↔ ∀ e ∈ es, e.1.vanishes = true := by
  induction es with
  | nil => exact ⟨fun _ => List.forall_mem_nil _, fun _ => rfl⟩
  | cons e es ih =>
    rw [List.forall_mem_cons] at h ⊢
    rw [displaySum]
    cases hv : e.1.vanishes with
    | true =>
      rw [if_pos rfl, ih h.2]
      exact (and_iff_right rfl).symm
    | false =>
      rw [if_neg Bool.false_ne_true]
      constructor
      · intro hnil
        exact absurd (List.append_eq_nil_iff.mp hnil).1 (displayTerm_ne_nil h.1)
      · exact fun hall => absurd hall.1 Bool.false_ne_true

/-- **The sum is printed as before exactly when it has no false unit.** -/
theorem displaySum_judged (h : ∀ e ∈ es, e.1.IsShown ∧ e.2.head? ≠ some '1') (first : Bool) :
    displaySum first es = displaySum first (judgedSum es) ↔ ∀ e ∈ es, ¬ IsFalseUnit e.1 e.2 := by
  induction es generalizing first with
  | nil => exact ⟨fun _ => List.forall_mem_nil _, fun _ => rfl⟩
  | cons e es ih =>
    rw [List.forall_mem_cons] at h ⊢
    obtain ⟨⟨hk, hpower⟩, hes⟩ := h
    unfold judgedSum
    rw [List.map_cons, displaySum, displaySum]
    cases hv : e.1.vanishes with
    | true =>
      have hnot : ¬ IsFalseUnit e.1 e.2 := fun hfalse => hk.vanishes hv hfalse.2.1
      have hv' : e.1.judged.vanishes = true := hv
      rw [if_pos rfl, if_pos hv', ← judgedSum, ih hes]
      exact (and_iff_right hnot).symm
    | false =>
      have hv' : ¬ e.1.judged.vanishes = true := Bool.eq_false_iff.mp hv
      rw [if_neg Bool.false_ne_true, if_neg hv']
      constructor
      · intro heq
        have hnot : ¬ IsFalseUnit e.1 e.2 := fun hfalse => displayTerm_ne hv hpower hfalse _ _ heq
        rw [displayTerm_judged hk hv hnot] at heq
        exact ⟨hnot, (ih hes false).mp (List.append_cancel_left heq)⟩
      · rintro ⟨hnot, hrest⟩
        rw [displayTerm_judged hk hv hnot, ← judgedSum, (ih hes false).mpr hrest]

end

section
variable {ka kb kc : Coefficient}

theorem displayTerms_of_ne_nil {cs : List Char}
    (h : displaySum true [(ka, ['x', '^', '2']), (kb, ['x']), (kc, [])] = cs) (hne : cs ≠ []) :
    displayTerms ka kb kc = cs := by
  unfold displayTerms
  rw [h]
  split
  · exact absurd rfl hne
  · rfl

theorem isFalseUnit_iff {k : Coefficient} {c : Char} {cs : List Char} :
    ¬ IsFalseUnit k (c :: cs) ↔ (k.numeral = ['1'] → k.isUnit = true) := by
  unfold IsFalseUnit
  constructor
  · intro h hone
    by_contra hunit
    exact h ⟨List.cons_ne_nil _ _, hone, Bool.eq_false_iff.mpr hunit⟩
  · rintro h ⟨_, hone, hunit⟩
    rw [h hone] at hunit
    exact Bool.false_ne_true hunit.symm

theorem displayTerms_judged (ha : ka.IsShown) (hb : kb.IsShown) (hc : kc.IsShown) :
    displayTerms ka kb kc = displayTerms ka.judged kb.judged kc.judged ↔
      (ka.numeral = ['1'] → ka.isUnit = true) ∧ (kb.numeral = ['1'] → kb.isUnit = true) := by
  let es := [(ka, ['x', '^', '2']), (kb, ['x']), (kc, [])]
  have hshown : ∀ e ∈ es, e.1.IsShown ∧ e.2.head? ≠ some '1' := by
    rw [List.forall_mem_cons, List.forall_mem_cons, List.forall_mem_singleton]
    exact ⟨⟨ha, by simp⟩, ⟨hb, by simp⟩, hc, nofun⟩
  have hfalse : (∀ e ∈ es, ¬ IsFalseUnit e.1 e.2) ↔
      (ka.numeral = ['1'] → ka.isUnit = true) ∧ (kb.numeral = ['1'] → kb.isUnit = true) := by
    rw [List.forall_mem_cons, List.forall_mem_cons, List.forall_mem_singleton, isFalseUnit_iff,
      isFalseUnit_iff]
    exact and_congr_right' (and_iff_left fun h => h.1 rfl)
  have hvanish : displaySum true es = [] ↔ displaySum true (judgedSum es) = [] := by
    have hjudged : ∀ e ∈ judgedSum es, e.1.IsShown := by
      intro e he
      obtain ⟨e', he', rfl⟩ := List.mem_map.mp he
      exact (hshown e' he').1.judged
    rw [displaySum_eq_nil fun e he => (hshown e he).1, displaySum_eq_nil hjudged]
    unfold judgedSum
    rw [List.forall_mem_map]
    rfl
  by_cases hnil : displaySum true es = []
  · -- nothing but `0` is printed
    have hall := (displaySum_eq_nil (fun e he => (hshown e he).1) true).mp hnil
    have hnot : ∀ e ∈ es, ¬ IsFalseUnit e.1 e.2 :=
      fun e he ⟨_, hone, _⟩ => (hshown e he).1.vanishes (hall e he) hone
    have hzero : displayTerms ka kb kc = ['0'] := by
      unfold displayTerms
      rw [show displaySum true [(ka, ['x', '^', '2']), (kb, ['x']), (kc, [])] = [] from hnil]
    have hzero' : displayTerms ka.judged kb.judged kc.judged = ['0'] := by
      unfold displayTerms
      rw [show displaySum true [(ka.judged, ['x', '^', '2']), (kb.judged, ['x']), (kc.judged, [])]
        = [] from hvanish.mp hnil]
    rw [hzero, hzero']
    exact ⟨fun _ => hfalse.mp hnot, fun _ => rfl⟩
  · rw [displayTerms_of_ne_nil rfl hnil, displayTerms_of_ne_nil rfl (hnil ∘ hvanish.mpr), ← hfalse]
    exact displaySum_judged hshown true

end

section
variable {places : Int} {p q r : Polynomial}

/-- The coefficients of one polynomial are those of another as their texts alone show them. -/
def IsJudged (places : Int) (p q : Polynomial) : Prop :=
  ∀ x ∈ [(p.a, q.a), (p.b, q.b), (p.c, q.c)],
    Coefficient.ofReal places x.2 = (Coefficient.ofReal places x.1).judged

theorem IsJudged.displayChars (h : IsJudged places p q) :
    q.displayChars places = displayTerms (Coefficient.ofReal places p.a).judged
      (Coefficient.ofReal places p.b).judged (Coefficient.ofReal places p.c).judged := by
  unfold IsJudged at h
  rw [List.forall_mem_cons, List.forall_mem_cons, List.forall_mem_singleton] at h
  unfold Polynomial.displayChars
  rw [h.1, h.2.1, h.2.2]

/-- From the second time on the text stays. -/
theorem IsJudged.display_eq (h : IsJudged places p q) (h' : IsJudged places q r) :
    r.display places = q.display places := by
  unfold display
  rw [h'.displayChars, h.displayChars]
  unfold IsJudged at h
  rw [List.forall_mem_cons, List.forall_mem_cons, List.forall_mem_singleton] at h
  rw [h.1, h.2.1, h.2.2, Coefficient.judged_judged, Coefficient.judged_judged,
    Coefficient.judged_judged]

/-- A magnitude that shows as `1`, by its text and by its characters. -/
theorem displayAt_abs_eq_one {x : Float} (hx : x.isFinite = true)
    (hplaces : places ≤ Value.placesLimit ∨ Double.isWhole x = true) :
    Value.displayAt places .null (.real x.abs) = .ok "1"
      ↔ (Decimal.display places x.abs).toList = ['1'] := by
  rw [← Double.isWhole_abs hx] at hplaces
  rw [Value.displayAt_null (Double.isFinite_abs hx) hplaces, Except.ok.injEq, ← String.toList_inj]
  rfl

end

/-- **Printing what was extracted** shows every coefficient as its text alone shows it.  It gives
the same text exactly when no square or linear coefficient shows as `1` without being a unit, and
from the second time on always the same text. -/
theorem reprint_eq_iff (places : Int) (p : Polynomial) (hp : p.isFinite = true) {text : String}
    (h : Value.displayPolynomial places (.real p.a) (.real p.b) (.real p.c) = .ok text) :
    ∃ q again, extract? text.toList = some q ∧
      Value.displayPolynomial places (.real q.a) (.real q.b) (.real q.c) = .ok again ∧
      again.toList = displayTerms (Coefficient.ofReal places p.a).judged
        (Coefficient.ofReal places p.b).judged (Coefficient.ofReal places p.c).judged ∧
      (again = text ↔ ∀ x ∈ [p.a, p.b],
        Value.displayAt places .null (.real x.abs) = .ok "1" → (x.abs == 1) = true) ∧
      ∃ r, extract? again.toList = some r ∧
        Value.displayPolynomial places (.real r.a) (.real r.b) (.real r.c) = .ok again := by
  obtain ⟨hplaces, rfl⟩ := (Value.displayPolynomial_eq_ok_iff hp).mp h
  obtain ⟨q, hextract, hfinite, hq⟩ := exists_extracted places hp
  obtain ⟨r, hextract', hfinite', hr⟩ := exists_extracted places hfinite
  have hplacesq := hplaces.imp_right fun hwhole => hwhole.extracted fun x hx => (hq x hx).2.2
  have hplacesr := hplacesq.imp_right fun hwhole => hwhole.extracted fun x hx => (hr x hx).2.2
  have hjudged : IsJudged places p q := fun x hx => (hq x hx).2.1
  have hjudged' : IsJudged places q r := fun x hx => (hr x hx).2.1
  obtain ⟨ha, hb, hc⟩ := isFinite_iff.mp hp
  refine ⟨q, q.display places, ?_, Value.displayPolynomial_real hfinite hplacesq, ?_, ?_, r, ?_, ?_⟩
  · rw [toList_display, hextract]
  · rw [toList_display, hjudged.displayChars]
  · have hones : ∀ x ∈ [p.a, p.b], x.isFinite = true →
        (Value.displayAt places .null (.real x.abs) = .ok "1"
          ↔ (Decimal.display places x.abs).toList = ['1']) := fun x hx hfin =>
      displayAt_abs_eq_one hfin (hplaces.imp_right fun hwhole =>
        hwhole x (List.mem_append_left [p.c] hx))
    rw [← String.toList_inj, toList_display, toList_display, hjudged.displayChars, eq_comm]
    rw [List.forall_mem_cons, List.forall_mem_singleton] at hones ⊢
    rw [hones.1 ha, hones.2 hb]
    exact displayTerms_judged (Coefficient.isShown_ofReal places ha)
      (Coefficient.isShown_ofReal places hb) (Coefficient.isShown_ofReal places hc)
  · rw [toList_display, hextract']
  · rw [Value.displayPolynomial_real hfinite' hplacesr, hjudged.display_eq hjudged']

theorem reprint_eq_iff_third : (⟨1, -0.3333, 0⟩ : Polynomial).isFinite = true ∧
    Value.displayPolynomial 2 (.real 1) (.real (-0.3333)) (.real 0) = .ok "x^2-0.33x" ∧
    ∃ q, extract? "x^2-0.33x".toList = some q ∧
      Value.displayPolynomial 2 (.real q.a) (.real q.b) (.real q.c) = .ok "x^2-0.33x" := by
  have hp : (⟨1, -0.3333, 0⟩ : Polynomial).isFinite = true := by decide +kernel
  have htext : Value.displayPolynomial 2 (.real 1) (.real (-0.3333)) (.real 0)
      = .ok "x^2-0.33x" := by decide +kernel
  have hunit : ∀ x ∈ [(1 : Float), -0.3333],
      Value.displayAt 2 .null (.real x.abs) = .ok "1" → (x.abs == 1) = true := by
    rw [List.forall_mem_cons, List.forall_mem_singleton]
    decide +kernel
  obtain ⟨q, again, hextract, hagain, _, hsame, _⟩ := reprint_eq_iff 2 ⟨1, -0.3333, 0⟩ hp htext
  exact ⟨hp, htext, q, hextract, hsame.mpr hunit ▸ hagain⟩

/-- The text is not always the same the second time: 1.00001 is printed as `1x^2`, which is read as
the unit and printed as `x^2`. -/
theorem reprint_not_always_same : ¬ ∀ (places : Int) (p q : Polynomial) (text again : String),
    p.isFinite = true →
    Value.displayPolynomial places (.real p.a) (.real p.b) (.real p.c) = .ok text →
    extract? text.toList = some q →
    Value.displayPolynomial places (.real q.a) (.real q.b) (.real q.c) = .ok again →
      again = text := by
  intro h
  have hfirst : Value.displayPolynomial 4 (.real 1.00001) (.real 0) (.real 0) = .ok "1x^2" := by
    decide +kernel
  have hread : (extract? "1x^2".toList).map (fun q =>
      Value.displayPolynomial 4 (.real q.a) (.real q.b) (.real q.c)) = some (.ok "x^2") := by
    decide +kernel
  obtain ⟨q, hq, hsecond⟩ := Option.map_eq_some_iff.mp hread
  exact absurd (h 4 ⟨1.00001, 0, 0⟩ q _ _ (by decide +kernel) hfirst hq hsecond) (by decide)

end AlgebraDesk.Polynomial
