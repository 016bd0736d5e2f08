import AlgebraDesk.Proofs.Plot.Frame

/-!
# The window of a list of samples

The samples of a plot are numbers: their x from the first to the last, and their y of any size, of
which only those that count span the window.  Then the frame is proper, and all that is drawn in it,
the samples that count, the marks that it covers and the axes through zero, lies in the window.

* `IsSampled`           the lists of samples that can be drawn;
* `Spans`, `frameOf_eq`   the frame of such a list;
* `Spans.isProper`      it can be drawn;
* `Spans.window_sample`   the samples that count lie in the window;
* `inX_of_covers`, `inY_of_covers`, `inX_zero`, `inY_zero`   so do marks and axes.
-/

namespace AlgebraDesk.Plot

open Double (rational IsSmall)

/-! ## values that count -/

section
variable {n : Number} {x y : Float}

/-- The bound for values that count. -/
def reach : Int := 10000000000

theorem limit_eq : (1e10 : Float) = Double.integer reach := by decide +kernel

theorem lowerLimit_eq : (-1e10 : Float) = Double.integer (-reach) := by decide +kernel

theorem isSmall_reach : IsSmall reach ∧ IsSmall (-reach) := by decide

/-- An integer within the bound is a double. -/
theorem rational_of_reach {v : Rat} (hv : n.value? = some v) (hy : n.double? = some y)
    (hreach : |v| ≤ reach) : rational y = v := by
  cases n with
  | real z =>
    obtain ⟨-, rfl⟩ := Number.of_value?_real hv
    obtain rfl : z = y := Option.some.inj hy
    rfl
  | int k =>
    obtain rfl := Option.some.inj hv
    have hk : |k| ≤ reach := by exact_mod_cast hreach
    have hsmall : IsSmall k := by
      have hnat : k.natAbs ≤ reach.natAbs := by
        have hpos : reach.natAbs = (reach : Int) := by decide
        rw [Int.abs_eq_natAbs, ← hpos] at hk
        exact_mod_cast hk
      exact hnat.trans isSmall_reach.1
    rw [Number.double?_int, Double.ofInt?_eq hsmall, Option.some_inj] at hy
    rw [← hy, Double.rational_integer hsmall]

/-- **A value that counts** is exactly a double, which is within the bound. -/
theorem exists_drawable (h : isDrawable n = true) :
    ∃ y, n.double? = some y ∧ y.isFinite = true ∧ n.value? = some (rational y) ∧
      |rational y| ≤ reach := by
  obtain ⟨hlow, hhigh⟩ := Bool.and_eq_true_iff.mp h
  unfold lowerLimit at hlow
  unfold limit at hhigh
  rw [lowerLimit_eq] at hlow
  rw [limit_eq] at hhigh
  have hgreat := Double.isFinite_integer isSmall_reach.1
  have hsmall := Double.isFinite_integer isSmall_reach.2
  obtain ⟨v, hv, hfrom, hto⟩ := (Number.between_iff hsmall hgreat).mp
    ⟨Number.le_of_lt hlow, Number.le_of_lt hhigh⟩
  obtain ⟨y, hy, hfinite, -⟩ := Number.exists_double hv hsmall hgreat hfrom hto
  rw [Double.rational_integer isSmall_reach.1] at hto
  rw [Double.rational_integer isSmall_reach.2, Int.cast_neg] at hfrom
  have hreach : |v| ≤ reach := abs_le.mpr ⟨hfrom, hto⟩
  have hexact := rational_of_reach hv hy hreach
  exact ⟨y, hy, hfinite, hexact ▸ hv, hexact ▸ hreach⟩

theorem double_of_drawable (h : isDrawable n = true) (hy : n.double? = some y) :
    y.isFinite = true ∧ n.value? = some (rational y) ∧ |rational y| ≤ reach := by
  obtain ⟨w, hw, hdouble⟩ := exists_drawable h
  rw [hy, Option.some_inj] at hw
  exact hw ▸ hdouble

theorem isFinite_sub_of_reach (hx : x.isFinite = true) (hy : y.isFinite = true)
    (hx' : |rational x| ≤ reach) (hy' : |rational y| ≤ reach) : (x - y).isFinite = true := by
  rw [Double.isFinite_sub_iff hx hy]
  have hreach : 2 * reach.toNat < Double.tooLargeFrom := by decide +kernel
  have hdouble : (reach : Rat) + reach = ((2 * reach.toNat : Nat) : Rat) := by
    have hnat : reach = (reach.toNat : Int) := by decide
    rw [hnat, Int.cast_natCast, Int.toNat_natCast, Nat.cast_mul, Nat.cast_ofNat, two_mul]
  have hsum : |rational x - rational y| ≤ ((2 * reach.toNat : Nat) : Rat) := by
    rw [← hdouble]
    exact (abs_sub _ _).trans (add_le_add hx' hy')
  exact lt_of_le_of_lt hsum (Nat.cast_lt.mpr hreach)

/-! ## reading numbers -/

theorem toNumber?_toValue (n : Number) : n.toValue.toNumber? = some n := by
  cases n <;> rfl

theorem readCoordinate_of_double? (h : n.double? = some x) : readCoordinate n.toValue = .ok x := by
  have hread : n.toValue.readReal = n.toReal := by
    cases n with
    | int k => rw [Number.toValue, Value.readReal_int, Number.toReal]
    | real z => rfl
  unfold readCoordinate
  rw [hread, Number.toReal_of_double? h]

theorem drawable?_eq (n : Number) :
    drawable? n.toValue = .ok (if isDrawable n then n.double? else none) := by
  unfold drawable? Number.double?
  rw [toNumber?_toValue]

end

/-! ## the extremes of a list -/

section
variable {α : Type} {P : α → Prop} {choose : α → α → α}

/-- What is chosen from a list, when the better of two is chosen each time. -/
theorem foldl_choose (le : α → α → Prop) (hrefl : ∀ a, le a a)
    (htrans : ∀ a b c, le a b → le b c → le a c)
    (hchoose : ∀ a b, P a → P b →
      (choose a b = a ∨ choose a b = b) ∧ le (choose a b) a ∧ le (choose a b) b)
    {b : α} {bs : List α} (h : ∀ a ∈ b :: bs, P a) :
    bs.foldl choose b ∈ b :: bs ∧ ∀ a ∈ b :: bs, le (bs.foldl choose b) a := by
  induction bs generalizing b with
  | nil =>
    refine ⟨List.mem_cons_self, fun a ha => ?_⟩
    rw [List.mem_singleton] at ha
    rw [ha]
    exact hrefl b
  | cons c bs ih =>
    obtain ⟨hb, hrest⟩ := List.forall_mem_cons.mp h
    obtain ⟨hc, hbs⟩ := List.forall_mem_cons.mp hrest
    obtain ⟨hone, hleb, hlec⟩ := hchoose b c hb hc
    have hP : P (choose b c) := by
      rcases hone with h | h
      · rwa [h]
      · rwa [h]
    obtain ⟨hmem, hle⟩ := ih (b := choose b c) (List.forall_mem_cons.mpr ⟨hP, hbs⟩)
    obtain ⟨hfirst, hothers⟩ := List.forall_mem_cons.mp hle
    rw [List.foldl_cons]
    constructor
    · rcases List.mem_cons.mp hmem with heq | hmem
      · rw [heq]
        rcases hone with h | h <;> simp [h]
      · exact List.mem_cons_of_mem _ (List.mem_cons_of_mem _ hmem)
    · refine List.forall_mem_cons.mpr ⟨htrans _ _ _ hfirst hleb,
        List.forall_mem_cons.mpr ⟨htrans _ _ _ hfirst hlec, hothers⟩⟩

end

section
variable {y : Float} {ys : List Float}

theorem least_spec (h : ∀ v ∈ y :: ys, v.isFinite = true) :
    least y ys ∈ y :: ys ∧ ∀ v ∈ y :: ys, rational (least y ys) ≤ rational v := by
  refine foldl_choose (fun a b => rational a ≤ rational b)
    (fun _ => le_refl _) (fun _ _ _ => le_trans) (fun a b ha hb => ?_) h
  split
  · rename_i hlt
    exact ⟨.inr rfl, ((Double.lt_iff hb ha).mp hlt).le, le_refl _⟩
  · rename_i hnot
    exact ⟨.inl rfl, le_refl _, not_lt.mp (mt (Double.lt_iff hb ha).mpr hnot)⟩

theorem greatest_spec (h : ∀ v ∈ y :: ys, v.isFinite = true) :
    greatest y ys ∈ y :: ys ∧ ∀ v ∈ y :: ys, rational v ≤ rational (greatest y ys) := by
  refine foldl_choose (fun a b => rational b ≤ rational a)
    (fun _ => le_refl _) (fun _ _ _ hab hbc => hbc.trans hab) (fun a b ha hb => ?_) h
  split
  · rename_i hlt
    exact ⟨.inr rfl, ((Double.lt_iff ha hb).mp hlt).le, le_refl _⟩
  · rename_i hnot
    exact ⟨.inl rfl, le_refl _, not_lt.mp (mt (Double.lt_iff ha hb).mpr hnot)⟩

end

/-! ## the frame of a list of samples -/

/-- Samples whose x lie between the first and the last, which are apart, and of which one at least
counts.  The x may be integers; it is their doubles that are drawn. -/
structure IsSampled (xs ys : List Number) (first last : Float) : Prop where
  paired : xs.length = ys.length
  start : ∃ x, xs.head? = some x ∧ x.double? = some first
  stop : ∃ x, xs.getLast? = some x ∧ x.double? = some last
  within : ∀ x ∈ xs, ∃ v, x.double? = some v ∧ v.isFinite = true ∧ first ≤ v ∧ v ≤ last
  apart : first < last
  width : (last - first).isFinite = true
  drawable : ∃ y ∈ ys, isDrawable y = true

/-- The frame from the first x to the last and from the least y that counts to the greatest. -/
structure Spans (f : Frame) (ys : List Number) (first last : Float) (rows columns : Int) :
    Prop where
  xFirst : f.xFirst = first
  xLast : f.xLast = last
  rows : f.rows = rows
  columns : f.columns = columns
  least : ∃ y ∈ ys, isDrawable y = true ∧ y.double? = some f.yLeast
  greatest : ∃ y ∈ ys, isDrawable y = true ∧ y.double? = some f.yGreatest
  within : ∀ y ∈ ys, isDrawable y = true → ∃ v, y.double? = some v ∧ f.yLeast ≤ v ∧ v ≤ f.yGreatest

section
variable {xs ys : List Number} {first last : Float} {rows columns : Int} {f : Frame}

/-- The doubles of the values that count. -/
def counted (ys : List Number) : List Float :=
  ys.filterMap fun y => if isDrawable y then y.double? else none

theorem mem_counted {v : Float} :
    v ∈ counted ys ↔ ∃ y ∈ ys, isDrawable y = true ∧ y.double? = some v := by
  unfold counted
  rw [List.mem_filterMap]
  refine exists_congr fun y => and_congr_right fun _ => ?_
  by_cases h : isDrawable y = true
  · rw [if_pos h]
    exact (and_iff_right h).symm
  · rw [if_neg h]
    exact ⟨nofun, fun hy => absurd hy.1 h⟩

theorem isFinite_counted {v : Float} (h : v ∈ counted ys) : v.isFinite = true := by
  obtain ⟨y, -, hdrawable, hv⟩ := mem_counted.mp h
  exact (double_of_drawable hdrawable hv).1

/-- The values are judged one by one. -/
theorem exists_judged (ys : List Number) :
    ∃ judged, (ys.map Number.toValue).mapM drawable? = .ok judged ∧
      judged.filterMap id = counted ys := by
  refine ⟨ys.map fun y => if isDrawable y then y.double? else none, ?_, ?_⟩
  · rw [List.mapM_map]
    exact mapM_eq_pure fun y _ => drawable?_eq y
  · rw [List.filterMap_map]
    rfl

/-- **Samples that can be drawn have a frame.** -/
theorem frameOf_eq (h : IsSampled xs ys first last) (rows columns : Int) :
    ∃ f, frameOf (xs.map Number.toValue) (ys.map Number.toValue) rows columns = .ok f ∧
      Spans f ys first last rows columns := by
  obtain ⟨x, hhead, hfirst⟩ := h.start
  obtain ⟨x', hend, hlast⟩ := h.stop
  obtain ⟨judged, hjudged, hcounted⟩ := exists_judged ys
  obtain ⟨w, ws, hcons⟩ : ∃ w ws, counted ys = w :: ws := by
    obtain ⟨y, hy, hdrawable⟩ := h.drawable
    obtain ⟨v, hv, -⟩ := exists_drawable hdrawable
    exact List.exists_cons_of_ne_nil (List.ne_nil_of_mem (mem_counted.mpr ⟨y, hy, hdrawable, hv⟩))
  have hfinite : ∀ v ∈ w :: ws, v.isFinite = true := fun v hv => isFinite_counted (hcons ▸ hv)
  obtain ⟨hleast, hbelow⟩ := least_spec hfinite
  obtain ⟨hgreatest, habove⟩ := greatest_spec hfinite
  refine ⟨⟨first, last, least w ws, greatest w ws, rows, columns⟩, ?_, ?_⟩
  · unfold frameOf
    rw [hjudged, ok_bind, hcounted, hcons, List.head?_map, List.getLast?_map, hhead, hend]
    simp only [Option.map_some, readCoordinate_of_double? hfirst,
      readCoordinate_of_double? hlast]
    rfl
  · exact {
      xFirst := rfl
      xLast := rfl
      rows := rfl
      columns := rfl
      least := mem_counted.mp (hcons ▸ hleast)
      greatest := mem_counted.mp (hcons ▸ hgreatest)
      within := by
        intro y hy hdrawable
        obtain ⟨v, hv, hv', -⟩ := exists_drawable hdrawable
        have hmem : v ∈ w :: ws := hcons ▸ mem_counted.mpr ⟨y, hy, hdrawable, hv⟩
        exact ⟨v, hv, (Double.le_iff (hfinite _ hleast) hv').mpr (hbelow v hmem),
          (Double.le_iff hv' (hfinite _ hgreatest)).mpr (habove v hmem)⟩ }

theorem IsSampled.isFinite_ends (h : IsSampled xs ys first last) :
    first.isFinite = true ∧ last.isFinite = true := by
  have hend : ∀ {x : Number} {v : Float}, x ∈ xs → x.double? = some v → v.isFinite = true := by
    intro x v hx hv
    obtain ⟨w, hw, hfinite, -⟩ := h.within x hx
    rw [hv, Option.some_inj] at hw
    rwa [hw]
  obtain ⟨x, hhead, hfirst⟩ := h.start
  obtain ⟨x', hstop, hlast⟩ := h.stop
  exact ⟨hend (List.mem_of_head? hhead) hfirst, hend (List.mem_of_getLast? hstop) hlast⟩

/-- A value that counts lies in the window. -/
theorem Spans.inY (hf : Spans f ys first last rows columns) {y : Number} {v : Float}
    (hy : y ∈ ys) (hdrawable : isDrawable y = true) (hv : y.double? = some v) : f.InY v := by
  obtain ⟨w, -, hcounts, hw⟩ := hf.least
  obtain ⟨w', -, hcounts', hw'⟩ := hf.greatest
  obtain ⟨u, hu, hlow, hhigh⟩ := hf.within y hy hdrawable
  rw [hv, Option.some_inj] at hu
  rw [← hu] at hlow hhigh
  have hfinite := (double_of_drawable hdrawable hv).1
  exact ⟨hfinite, (Double.le_iff (double_of_drawable hcounts hw).1 hfinite).mp hlow,
    (Double.le_iff hfinite (double_of_drawable hcounts' hw').1).mp hhigh⟩

section
variable (h : IsSampled xs ys first last) (hf : Spans f ys first last rows columns)
include h hf

/-- **The frame can be drawn.** -/
theorem Spans.isProper (hrows : 1 ≤ rows) (hcolumns : 1 ≤ columns) : f.IsProper := by
  obtain ⟨hfirst, hlast⟩ := h.isFinite_ends
  obtain ⟨y, -, hdrawable, hv⟩ := hf.least
  obtain ⟨hleast, -, hleast'⟩ := double_of_drawable hdrawable hv
  obtain ⟨y', hy', hdrawable', hv'⟩ := hf.greatest
  obtain ⟨hgreatest, -, hgreatest'⟩ := double_of_drawable hdrawable' hv'
  exact {
    rows := hf.rows ▸ hrows
    columns := hf.columns ▸ hcolumns
    first := hf.xFirst ▸ hfirst
    last := hf.xLast ▸ hlast
    apart := by
      rw [hf.xFirst, hf.xLast]
      exact (Double.lt_iff hfirst hlast).mp h.apart
    width := by
      rw [hf.xFirst, hf.xLast]
      exact h.width
    least := hleast
    greatest := hgreatest
    ordered := (hf.inY hy' hdrawable' hv').2.1
    range := isFinite_sub_of_reach hgreatest hleast hgreatest' hleast' }

/-- A sample that counts. -/
theorem Spans.window_sample {p : Number × Number} (hmem : p ∈ xs.zip ys)
    (hdrawable : isDrawable p.2 = true) : ∃ x y, p.1.double? = some x ∧ p.2.double? = some y ∧
      f.InX x ∧ f.InY y := by
  obtain ⟨hx, hy⟩ := List.of_mem_zip hmem
  obtain ⟨x, hx', hfinite, hlow, hhigh⟩ := h.within p.1 hx
  obtain ⟨y, hy', -⟩ := exists_drawable hdrawable
  obtain ⟨hfirst, hlast⟩ := h.isFinite_ends
  refine ⟨x, y, hx', hy', ⟨hfinite, ?_, ?_⟩, hf.inY hy hdrawable hy'⟩
  · rw [hf.xFirst]
    exact (Double.le_iff hfirst hfinite).mp hlow
  · rw [hf.xLast]
    exact (Double.le_iff hfinite hlast).mp hhigh

end

/-! ## marks and axes -/

theorem Frame.IsProper.inX_of_covers (hp : f.IsProper) {n : Number} (hn : f.coversX n = true) :
    ∃ x, n.double? = some x ∧ f.InX x :=
  Number.double_between hp.first hp.last (Bool.and_eq_true_iff.mp hn)

theorem Frame.IsProper.inY_of_covers (hp : f.IsProper) {n : Number} (hn : f.coversY n = true) :
    ∃ y, n.double? = some y ∧ f.InY y :=
  Number.double_between hp.least hp.greatest (Bool.and_eq_true_iff.mp hn)

theorem Frame.IsProper.coversX_zero (hp : f.IsProper) :
    f.coversX (.int 0) = true ↔ f.xFirst ≤ 0 ∧ 0 ≤ f.xLast :=
  Bool.and_eq_true_iff.trans (Number.between_zero_iff hp.first hp.last)

theorem Frame.IsProper.coversY_zero (hp : f.IsProper) :
    f.coversY (.int 0) = true ↔ f.yLeast ≤ 0 ∧ 0 ≤ f.yGreatest :=
  Bool.and_eq_true_iff.trans (Number.between_zero_iff hp.least hp.greatest)

theorem Frame.IsProper.inX_zero (hp : f.IsProper) (h : f.xFirst ≤ 0 ∧ 0 ≤ f.xLast) : f.InX 0 :=
  ⟨Double.isFinite_zero, (Double.le_iff hp.first Double.isFinite_zero).mp h.1,
    (Double.le_iff Double.isFinite_zero hp.last).mp h.2⟩

theorem Frame.IsProper.inY_zero (hp : f.IsProper) (h : f.yLeast ≤ 0 ∧ 0 ≤ f.yGreatest) :
    f.InY 0 :=
  ⟨Double.isFinite_zero, (Double.le_iff hp.least Double.isFinite_zero).mp h.1,
    (Double.le_iff Double.isFinite_zero hp.greatest).mp h.2⟩

/-- What a frame covers depends on its values only. -/
theorem Frame.IsAlike.coversY_eq {f' : Frame} (halike : f.IsAlike f') (hp : f.IsProper)
    (hp' : f'.IsProper) (n : Number) : f.coversY n = f'.coversY n := by
  have hiff := Number.between_iff (n := n) hp.least hp.greatest
  have hiff' := Number.between_iff (n := n) hp'.least hp'.greatest
  rw [halike.least, halike.greatest, ← hiff', ← Bool.and_eq_true, ← Bool.and_eq_true] at hiff
  exact Bool.eq_iff_iff.mpr hiff

end

end AlgebraDesk.Plot
