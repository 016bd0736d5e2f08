import AlgebraDesk.Proofs.Fibonacci.Playback
import Mathlib.Logic.Function.Iterate

/-!
# Revealing any sequence

A playback may be of any list of values.  Whether it can be played to its end is a matter of its
neighbours: each item from the second on that is not zero must divide the next one.  What is visible
then has ratios at every step, and they are the first ratios of the whole list, also where a zero
has no ratio over it.  A step shows one more item until all are visible and then nothing new, so
playing on ends after as many steps as items are hidden.

* `HasRatios`, `hasRatios_ints`   lists without a ratio that fails, and which lists of integers
  they are;
* `ratios_take`        the ratios of a beginning are the first ratios;
* `iterate_next`       a playback after some steps;
* `PlaysOn`            the steps up to the last item, counted, with what each shows;
* `exists_playsOn`, `PlaysOn.unique`   there is one way to play on, as long as items are hidden;
* `Showing`, `exists_showing`   the texts of playing on, from what is visible to the whole list.
-/

namespace AlgebraDesk.Fibonacci

/-! ## ratios of any list -/

/-- An item that is not zero divides the next one. -/
def DividesNext (w v : Value) : Prop := isZero w = false → ∃ q, quotient v w = .ok q

/-- Every item from the second on divides the next one, unless it is zero. -/
def HasRatios (full : List Value) : Prop := (full.drop 1).IsChain DividesNext

section
variable {v w : Value} {vs : List Value} {rs : List Float}

theorem ratiosFrom_of_zero (h : isZero w = true) (v : Value) (vs : List Value) :
    ratiosFrom w (v :: vs) = ratiosFrom v vs := by
  rw [ratiosFrom, if_pos h]

theorem ratiosFrom_of_not_zero (h : isZero w = false) (v : Value) (vs : List Value) :
    ratiosFrom w (v :: vs) = (do
      let q ← quotient v w
      return q :: (← ratiosFrom v vs)) := by
  rw [ratiosFrom, h, if_neg Bool.false_ne_true]

theorem ratiosFrom_ok_iff : (∃ rs, ratiosFrom w vs = .ok rs) ↔ (w :: vs).IsChain DividesNext := by
  induction vs generalizing w with
  | nil => exact iff_of_true ⟨[], rfl⟩ (.singleton w)
  | cons v vs ih =>
    rw [List.isChain_cons_cons, ← ih]
    cases hzero : isZero w with
    | true =>
      rw [ratiosFrom_of_zero hzero]
      -- nothing is divided by a zero, so that it divides anything
      refine (and_iff_right fun h => ?_).symm
      rw [hzero] at h
      cases h
    | false =>
      rw [ratiosFrom_of_not_zero hzero]
      constructor
      · rintro ⟨_, h⟩
        obtain ⟨q, hq, h⟩ := bind_eq_ok.mp h
        obtain ⟨rs, hrs, -⟩ := bind_eq_ok.mp h
        exact ⟨fun _ => ⟨q, hq⟩, rs, hrs⟩
      · rintro ⟨hdivides, rs, hrs⟩
        obtain ⟨q, hq⟩ := hdivides hzero
        rw [hq, ok_bind, hrs]
        exact ⟨q :: rs, rfl⟩

/-- **A list has ratios when no division fails.** -/
theorem hasRatios_iff (full : List Value) : HasRatios full ↔ ∃ rs, ratios full = .ok rs := by
  match full with
  | [] => exact iff_of_true .nil ⟨[], rfl⟩
  | [_] => exact iff_of_true .nil ⟨[], rfl⟩
  | _ :: v :: vs => exact ratiosFrom_ok_iff.symm

theorem ratiosFrom_take (h : ratiosFrom w vs = .ok rs) (k : Nat) :
    ∃ rs', ratiosFrom w (vs.take k) = .ok rs' ∧ rs' <+: rs := by
  induction vs generalizing w rs k with
  | nil =>
    rw [List.take_nil]
    exact ⟨rs, h, List.prefix_rfl⟩
  | cons v vs ih =>
    cases k with
    | zero => exact ⟨[], rfl, List.nil_prefix⟩
    | succ k =>
      rw [List.take_succ_cons]
      cases hzero : isZero w with
      | true =>
        rw [ratiosFrom_of_zero hzero] at h ⊢
        exact ih h k
      | false =>
        rw [ratiosFrom_of_not_zero hzero] at h ⊢
        obtain ⟨q, hq, h⟩ := bind_eq_ok.mp h
        obtain ⟨rs, hrs, h⟩ := bind_eq_ok.mp h
        cases h
        obtain ⟨rs', hrs', hprefix⟩ := ih hrs k
        rw [hq, ok_bind, hrs']
        exact ⟨q :: rs', rfl, (List.prefix_cons_inj q).mpr hprefix⟩

/-- **The ratios of a beginning are the first ratios** of the list. -/
theorem ratios_take {full : List Value} (h : ratios full = .ok rs) (k : Nat) :
    ∃ rs', ratios (full.take k) = .ok rs' ∧ rs' <+: rs := by
  match full, k with
  | [], k => exact ⟨rs, by rw [List.take_nil]; exact h, List.prefix_rfl⟩
  | [_], 0 => exact ⟨[], rfl, List.nil_prefix⟩
  | [_], k + 1 => exact ⟨rs, by rw [List.take_succ_cons, List.take_nil]; exact h, List.prefix_rfl⟩
  | _ :: _ :: _, 0 => exact ⟨[], rfl, List.nil_prefix⟩
  | _ :: _ :: _, 1 => exact ⟨[], rfl, List.nil_prefix⟩
  | _ :: _ :: _, k + 2 => exact ratiosFrom_take h k

end

/-! ## lists of integers -/

theorem quotient_int_ok_iff (m : Int) {n : Int} (hn : n ≠ 0) :
    (∃ q, quotient (.int m) (.int n) = .ok q) ↔ Double.quotient? m n ≠ none := by
  show (∃ q, (Number.int m).divide (.int n) = .ok q) ↔ _
  rw [Number.divide, if_neg hn]
  cases Double.quotient? m n with
  | none => exact iff_of_false error_ne_ok (absurd rfl)
  | some q => exact iff_of_true ⟨q, rfl⟩ (Option.some_ne_none q)

/-- **Integers have ratios when none of them is too large** for a double. -/
theorem hasRatios_ints (ns : List Int) : HasRatios (ns.map .int) ↔
    (ns.drop 1).IsChain fun n m => n ≠ 0 → Double.quotient? m n ≠ none := by
  have hdivides : ∀ n m : Int, DividesNext (.int n) (.int m)
      ↔ (n ≠ 0 → Double.quotient? m n ≠ none) := by
    intro n m
    unfold DividesNext
    rw [isZero_int, decide_eq_false_iff_not]
    exact forall_congr' fun hn => quotient_int_ok_iff m hn
  unfold HasRatios
  rw [← List.map_drop, List.isChain_map]
  simp only [hdivides]

theorem hasRatios_fibValues (n : Nat) : HasRatios (fibValues n) :=
  (hasRatios_iff _).mpr ⟨_, ratios_eq n⟩

namespace Playback

/-! ## steps -/

section
variable {p q q' : Playback} {full : List Value} {s k k' : Nat} {texts texts' : List String}

/-- **A playback after some steps**: so many more items are visible, but never more than all. -/
theorem iterate_next (h : s ≤ full.length) (k : Nat) :
    next^[k] ⟨full, s⟩ = ⟨full, min full.length (s + k)⟩ := by
  induction k with
  | zero => rw [Nat.add_zero, Nat.min_eq_right h, Function.iterate_zero_apply]
  | succ k ih =>
    rw [Function.iterate_succ_apply', ih, next]
    congr 1
    show min full.length (min full.length (s + k) + 1) = min full.length (s + (k + 1))
    omega

theorem finished_iff (full : List Value) (s : Nat) :
    (⟨full, s⟩ : Playback).finished = true ↔ full.length ≤ s := decide_eq_true_iff

/-- Whatever is visible has its ratios, and they are the first ones. -/
theorem exists_ratios (h : HasRatios full) (s : Nat) : ∃ rs rs', Fibonacci.ratios full = .ok rs ∧
    (⟨full, s⟩ : Playback).ratios = .ok rs' ∧ rs' <+: rs := by
  obtain ⟨rs, hrs⟩ := (hasRatios_iff full).mp h
  obtain ⟨rs', hrs', hprefix⟩ := ratios_take hrs s
  exact ⟨rs, rs', hrs, hrs', hprefix⟩

theorem exists_render (h : HasRatios full) (s : Nat) :
    ∃ text, (⟨full, s⟩ : Playback).render = .ok text := by
  obtain ⟨_, rs', -, hrs', -⟩ := exists_ratios h s
  unfold render
  rw [hrs']
  exact ⟨_, rfl⟩

theorem advance_eq {text : String} (h : p.next.render = .ok text) :
    p.advance = .ok (text, p.next) := by
  unfold advance
  rw [h]
  rfl

/-- At the end a step changes nothing. -/
theorem next_of_finished (h : s ≤ full.length) (hdone : (⟨full, s⟩ : Playback).finished = true) :
    (⟨full, s⟩ : Playback).next = ⟨full, s⟩ := by
  have hle := (finished_iff full s).mp hdone
  unfold next
  congr 1
  show min full.length (s + 1) = s
  omega

/-- **Once finished, further steps change neither the place nor the text.** -/
theorem advance_of_finished (h : HasRatios full) (hs : s ≤ full.length)
    (hdone : (⟨full, s⟩ : Playback).finished = true) : ∃ text, render ⟨full, s⟩ = .ok text ∧
      ∀ j, next^[j] ⟨full, s⟩ = ⟨full, s⟩ ∧
        advance (next^[j] ⟨full, s⟩) = .ok (text, ⟨full, s⟩) := by
  have hnext := next_of_finished hs hdone
  obtain ⟨text, htext⟩ := exists_render h s
  have hstep := advance_eq (p := ⟨full, s⟩) (hnext.symm ▸ htext)
  rw [hnext] at hstep
  refine ⟨text, htext, fun j => ?_⟩
  have hfixed : next^[j] ⟨full, s⟩ = ⟨full, s⟩ := Function.iterate_fixed hnext j
  exact ⟨hfixed, hfixed.symm ▸ hstep⟩

/-! ## playing on -/

/-- `PlaysOn p k texts q`: from `p`, `k` steps are taken until all items are visible, each shows one
of the texts, and they lead to `q`. -/
inductive PlaysOn : Playback → Nat → List String → Playback → Prop
  | done {p : Playback} (h : p.finished = true) : PlaysOn p 0 [] p
  | step {p p' q : Playback} {k : Nat} {text : String} {texts : List String}
    (h : p.finished = false) (hstep : p.advance = .ok (text, p')) (rest : PlaysOn p' k texts q) :
    PlaysOn p (k + 1) (text :: texts) q

theorem PlaysOn.unique (h : PlaysOn p k texts q) (h' : PlaysOn p k' texts' q') :
    k' = k ∧ texts' = texts ∧ q' = q := by
  induction h generalizing k' texts' with
  | done hdone =>
    cases h' with
    | done _ => exact ⟨rfl, rfl, rfl⟩
    | step hmore _ _ =>
      rw [hdone] at hmore
      cases hmore
  | step hmore hstep _ ih =>
    cases h' with
    | done hdone =>
      rw [hdone] at hmore
      cases hmore
    | step _ hstep' hrest =>
      rw [hstep] at hstep'
      cases hstep'
      obtain ⟨rfl, rfl, rfl⟩ := ih hrest
      exact ⟨rfl, rfl, rfl⟩

theorem PlaysOn.length (h : PlaysOn p k texts q) : texts.length = k := by
  induction h with
  | done _ => rfl
  | step _ _ _ ih => rw [List.length_cons, ih]

/-- The last text is the one about the place where the steps lead. -/
theorem PlaysOn.last (h : PlaysOn p k texts q) {first : String} (hfirst : p.render = .ok first) :
    ∃ whole, q.render = .ok whole ∧ (first :: texts).getLast? = some whole := by
  induction h generalizing first with
  | done _ => exact ⟨first, hfirst, rfl⟩
  | step _ hstep _ ih =>
    obtain ⟨text, htext, hstep⟩ := bind_eq_ok.mp hstep
    cases hstep
    obtain ⟨whole, hwhole, hlast⟩ := ih htext
    exact ⟨whole, hwhole, by rw [List.getLast?_cons_cons, hlast]⟩

theorem PlaysOn.remaining (h : PlaysOn p k texts q) : p.remaining = .ok texts := by
  induction h with
  | done hdone =>
    rw [Playback.remaining, dif_neg (by rw [hdone]; exact Bool.noConfusion)]
  | step hmore hstep _ ih =>
    obtain ⟨text, htext, hstep⟩ := bind_eq_ok.mp hstep
    cases hstep
    rw [Playback.remaining, dif_pos hmore, htext, ok_bind, ih]
    rfl

/-- **A list with ratios can be played on** from any place, in as many steps as items are hidden. -/
theorem exists_playsOn (h : HasRatios full) (hs : s ≤ full.length) :
    ∃ texts, PlaysOn ⟨full, s⟩ (full.length - s) texts (complete full) := by
  -- by the number of items that are hidden
  obtain ⟨d, hd⟩ : ∃ d, d = full.length - s := ⟨_, rfl⟩
  induction d generalizing s with
  | zero =>
    obtain rfl : s = full.length := by omega
    rw [Nat.sub_self]
    exact ⟨[], .done ((finished_iff full _).mpr (Nat.le_refl _))⟩
  | succ d ih =>
    have hmore : (⟨full, s⟩ : Playback).finished = false := by
      rw [← Bool.not_eq_true, finished_iff]
      omega
    have hnext : (⟨full, s⟩ : Playback).next = ⟨full, s + 1⟩ := by
      unfold next
      congr 1
      show min full.length (s + 1) = s + 1
      omega
    obtain ⟨text, htext⟩ := exists_render h (s + 1)
    have hstep := advance_eq (p := ⟨full, s⟩) (hnext.symm ▸ htext)
    rw [hnext] at hstep
    obtain ⟨texts, hrest⟩ := ih (show s + 1 ≤ full.length by omega) (by omega)
    have hcount : full.length - s = full.length - (s + 1) + 1 := by omega
    rw [hcount]
    exact ⟨text :: texts, .step hmore hstep hrest⟩

end

/-- `Showing p first texts whole`: playing on shows `first` for what is visible and one of the texts
at each step, as many as items are hidden, and what is shown at the end is the whole list. -/
structure Showing (p : Playback) (first : String) (texts : List String) (whole : String) :
    Prop where
  first_text : p.render = .ok first
  steps : ∀ k texts' q, PlaysOn p k texts' q
    ↔ k = p.full.length - p.shown ∧ texts' = texts ∧ q = complete p.full
  count : (first :: texts).length = p.full.length - p.shown + 1
  whole_text : (complete p.full).render = .ok whole
  last : (first :: texts).getLast? = some whole

theorem exists_showing {p : Playback} (h : HasRatios p.full) (hs : p.shown ≤ p.full.length) :
    ∃ first texts whole, Showing p first texts whole := by
  obtain ⟨first, hfirst⟩ := exists_render h p.shown
  obtain ⟨texts, hon⟩ := exists_playsOn h hs
  obtain ⟨whole, hwhole, hlast⟩ := hon.last hfirst
  refine ⟨first, texts, whole, hfirst, fun k texts' q => ⟨fun h' => hon.unique h', ?_⟩, ?_, hwhole,
    hlast⟩
  · rintro ⟨rfl, rfl, rfl⟩
    exact hon
  · rw [List.length_cons, hon.length]

theorem Showing.remaining {p : Playback} {first whole : String} {texts : List String}
    (h : Showing p first texts whole) : p.remaining = .ok texts :=
  ((h.steps _ _ _).mpr ⟨rfl, rfl, rfl⟩).remaining

end Playback

end AlgebraDesk.Fibonacci
