import AlgebraDesk.Plot.Canvas
import AlgebraDesk.Proofs.Double.Scaling
import AlgebraDesk.Proofs.Result

/-!
# Places on the canvas

In a frame that spans more than a point, every position in the window has a cell.  The column does
not decrease with x, and the row does not increase with y; the ends of the window are the ends of
the canvas, as long as the number of the last cell is a double.

* `Frame.IsProper`, `InX`, `InY`     the frames that can be drawn, and what they span;
* `columnAt`, `rowAt`, `cell_eq`     the cell of a position;
* `cell_lt`                          it is on the canvas;
* `columnAt_mono`, `rowAt_anti`      the order of the cells;
* `columnAt_first`, `columnAt_last`, `rowAt_greatest`, `rowAt_least`  the ends;
* `IsAlike`, `rowAt_eq`              frames that differ in the sign of a zero only.
-/

namespace AlgebraDesk.Plot.Frame

open Double (rational units nearestInteger IsPart Rounds)

/-- The frames that span more than a point in x and do not overflow. -/
structure IsProper (f : Frame) : Prop where
  rows : 1 ≤ f.rows
  columns : 1 ≤ f.columns
  first : f.xFirst.isFinite = true
  last : f.xLast.isFinite = true
  apart : rational f.xFirst < rational f.xLast
  width : (f.xLast - f.xFirst).isFinite = true
  least : f.yLeast.isFinite = true
  greatest : f.yGreatest.isFinite = true
  ordered : rational f.yLeast ≤ rational f.yGreatest
  range : (f.yGreatest - f.yLeast).isFinite = true

def InX (f : Frame) (x : Float) : Prop :=
  x.isFinite = true ∧ rational f.xFirst ≤ rational x ∧ rational x ≤ rational f.xLast

def InY (f : Frame) (y : Float) : Prop :=
  y.isFinite = true ∧ rational f.yLeast ≤ rational y ∧ rational y ≤ rational f.yGreatest

/-- The number of the last cell is a double. -/
def IsExact (size : Int) : Prop := rational (lastCell size) = size - 1

/-- The cell nearest to a position on the scale. -/
def nearest (size : Int) (v : Float) : Nat := clamp size (nearestInteger (units v))

def columnAt (f : Frame) (x : Float) : Nat :=
  nearest f.columns ((x - f.xFirst) / (f.xLast - f.xFirst) * lastCell f.columns)

def rowAt (f : Frame) (y : Float) : Nat :=
  nearest f.rows ((f.yGreatest - y) / f.height * lastCell f.rows)

/-! ## cells -/

section
variable {size : Int} {u v : Float}

theorem clamp_lt (h : 1 ≤ size) (n : Int) : clamp size n < size.toNat := by
  unfold clamp
  omega

theorem clamp_mono {m n : Int} (h : m ≤ n) : clamp size m ≤ clamp size n := by
  unfold clamp
  omega

theorem clamp_zero : clamp size 0 = 0 := by
  unfold clamp
  omega

theorem clamp_last : clamp size (size - 1) = (size - 1).toNat := by
  unfold clamp
  omega

theorem nearestCell_eq (h : v.isFinite = true) : nearestCell v = .ok (nearestInteger (units v)) := by
  unfold nearestCell
  rw [Double.round?_eq h]

theorem nearest_mono (h : rational u ≤ rational v) : nearest size u ≤ nearest size v :=
  clamp_mono (Double.nearestInteger_mono (Double.rational_le_iff.mp h))

theorem nearest_zero (h : rational v = 0) : nearest size v = 0 := by
  unfold nearest
  rw [Double.nearestInteger_of_rational (k := 0) (by rw [h, Int.cast_zero]), clamp_zero]

theorem nearest_last (hsize : IsExact size) (h : rational v = rational (lastCell size)) :
    nearest size v = (size - 1).toNat := by
  unfold nearest
  rw [Double.nearestInteger_of_rational (k := size - 1) ?_, clamp_last]
  rw [h, hsize, Int.cast_sub, Int.cast_one]

/-- The last cell is a double that is not negative. -/
theorem lastCell_range (h : 1 ≤ size) :
    (lastCell size).isFinite = true ∧ 0 ≤ rational (lastCell size) := by
  unfold lastCell Double.ofInt?
  dsimp only
  split
  · rename_i hfinite
    refine ⟨hfinite, (Double.rounds_integer (size - 1)).nonneg hfinite ?_⟩
    exact_mod_cast Int.sub_nonneg_of_le h
  · exact ⟨rfl, Double.rational_zero.ge⟩

/-- All sizes that a canvas can have in practice. -/
theorem isExact_of_le (h : 1 ≤ size) (hsize : size - 1 ≤ Decimal.twoTo 53) : IsExact size := by
  have hsmall : Double.IsSmall (size - 1) := by
    unfold Double.IsSmall
    omega
  unfold IsExact lastCell
  rw [Double.ofInt?_eq hsmall, Option.getD_some, Double.rational_integer hsmall, Int.cast_sub,
    Int.cast_one]

end

namespace IsProper

variable {f : Frame} {x x' y y' : Float}

/-! ## distances -/

theorem inX_first (h : f.IsProper) : f.InX f.xFirst := ⟨h.first, le_refl _, h.apart.le⟩

theorem inY_least (h : f.IsProper) : f.InY f.yLeast := ⟨h.least, le_refl _, h.ordered⟩

theorem isPart_x (h : f.IsProper) (hx : f.InX x) :
    IsPart (x - f.xFirst) (f.xLast - f.xFirst) := by
  obtain ⟨hfinite, hlow, hhigh⟩ := hx
  have hwidth := (Double.isFinite_sub_iff h.last h.first).mp h.width
  rw [abs_of_nonneg (sub_nonneg.mpr h.apart.le)] at hwidth
  have hdistance : (x - f.xFirst).isFinite = true := by
    rw [Double.isFinite_sub_iff hfinite h.first, abs_of_nonneg (sub_nonneg.mpr hlow)]
    exact (sub_le_sub_right hhigh _).trans_lt hwidth
  exact {
    distance := hdistance
    length := h.width
    nonneg := (Double.rounds_sub hfinite h.first).nonneg hdistance (sub_nonneg.mpr hlow)
    le := (Double.rounds_sub hfinite h.first).rational_le (Double.rounds_sub h.last h.first)
      hdistance h.width (sub_le_sub_right hhigh _)
    pos := Double.rational_sub_pos h.last h.first h.width h.apart }

theorem height_flat (h : f.IsProper) (hflat : rational f.yLeast = rational f.yGreatest) :
    f.height = 1.0 := if_pos ((Double.beq_iff h.greatest h.least).mpr hflat.symm)

theorem height_apart (h : f.IsProper) (hapart : rational f.yLeast < rational f.yGreatest) :
    f.height = f.yGreatest - f.yLeast :=
  if_neg fun heq => hapart.ne' ((Double.beq_iff h.greatest h.least).mp heq)

theorem isPart_y (h : f.IsProper) (hy : f.InY y) : IsPart (f.yGreatest - y) f.height := by
  obtain ⟨hfinite, hlow, hhigh⟩ := hy
  have hrange := (Double.isFinite_sub_iff h.greatest h.least).mp h.range
  rw [abs_of_nonneg (sub_nonneg.mpr h.ordered)] at hrange
  have hdistance : (f.yGreatest - y).isFinite = true := by
    rw [Double.isFinite_sub_iff h.greatest hfinite, abs_of_nonneg (sub_nonneg.mpr hhigh)]
    exact (sub_le_sub_left hlow _).trans_lt hrange
  have hrounds := Double.rounds_sub h.greatest hfinite
  have hnonneg := hrounds.nonneg hdistance (sub_nonneg.mpr hhigh)
  rcases lt_or_eq_of_le h.ordered with hapart | hflat
  · rw [h.height_apart hapart]
    exact {
      distance := hdistance
      length := h.range
      nonneg := hnonneg
      le := hrounds.rational_le (Double.rounds_sub h.greatest h.least) hdistance h.range
        (sub_le_sub_left hlow _)
      pos := Double.rational_sub_pos h.greatest h.least h.range hapart }
  · -- all values are equal, and the height stands for itself
    have hinteger : (1.0 : Float) = Double.integer 1 := by decide +kernel
    have hone : rational (1.0 : Float) = 1 := by rw [hinteger, Double.rational_one.2]
    have hzero : rational (f.yGreatest - y) = 0 :=
      hrounds.eq_zero (sub_eq_zero.mpr (le_antisymm (hflat.ge.trans hlow) hhigh))
    rw [h.height_flat hflat]
    exact {
      distance := hdistance
      length := rfl
      nonneg := hnonneg
      le := by rw [hzero, hone]; exact zero_le_one
      pos := by rw [hone]; exact zero_lt_one }

/-! ## the cell of a position -/

theorem columnOf_eq (h : f.IsProper) (hx : f.InX x) : f.columnOf x = .ok (f.columnAt x) := by
  have hpart := h.isPart_x hx
  obtain ⟨hlast, hlast0⟩ := lastCell_range h.columns
  have hwidth : ¬ (f.xLast - f.xFirst == 0) = true := by
    rw [Double.beq_iff h.width Double.isFinite_zero, Double.rational_zero]
    exact ne_of_gt hpart.pos
  unfold columnOf
  simp only [if_neg hwidth, nearestCell_eq (hpart.isFinite_scaled hlast hlast0)]
  rfl

theorem rowOf_eq (h : f.IsProper) (hy : f.InY y) : f.rowOf y = .ok (f.rowAt y) := by
  obtain ⟨hlast, hlast0⟩ := lastCell_range h.rows
  unfold rowOf
  rw [nearestCell_eq ((h.isPart_y hy).isFinite_scaled hlast hlast0)]
  rfl

/-- **Every position in the window has a cell.** -/
theorem cell_eq (h : f.IsProper) (hx : f.InX x) (hy : f.InY y) :
    f.cell x y = .ok (f.rowAt y, f.columnAt x) := by
  unfold cell
  rw [h.columnOf_eq hx, h.rowOf_eq hy]
  rfl

/-- **No cell is outside the canvas**, wherever the position is. -/
theorem rowOf_lt (h : f.IsProper) {r : Nat} (hr : f.rowOf y = .ok r) : r < f.rows.toNat := by
  obtain ⟨n, -, hclamp⟩ := bind_eq_ok.mp hr
  rw [← Except.ok.inj hclamp]
  exact clamp_lt h.rows n

theorem columnOf_lt (h : f.IsProper) {c : Nat} (hc : f.columnOf x = .ok c) :
    c < f.columns.toNat := by
  unfold columnOf at hc
  dsimp only at hc
  split at hc
  · cases hc
  · obtain ⟨n, -, hclamp⟩ := bind_eq_ok.mp hc
    rw [← Except.ok.inj hclamp]
    exact clamp_lt h.columns n

theorem cell_lt (h : f.IsProper) {r c : Nat} (hcell : f.cell x y = .ok (r, c)) :
    r < f.rows.toNat ∧ c < f.columns.toNat := by
  obtain ⟨c', hc, hrest⟩ := bind_eq_ok.mp hcell
  obtain ⟨r', hr, hpair⟩ := bind_eq_ok.mp hrest
  obtain ⟨rfl, rfl⟩ := Prod.mk.inj (Except.ok.inj hpair)
  exact ⟨h.rowOf_lt hr, h.columnOf_lt hc⟩

/-! ## the order of the cells -/

theorem columnAt_mono (h : f.IsProper) (hx : f.InX x) (hx' : f.InX x')
    (hle : rational x ≤ rational x') : f.columnAt x ≤ f.columnAt x' := by
  obtain ⟨hlast, hlast0⟩ := lastCell_range h.columns
  have hpart := h.isPart_x hx
  have hpart' := h.isPart_x hx'
  refine nearest_mono (hpart.scaled_mono hlast hlast0 hpart' ?_ rfl)
  exact (Double.rounds_sub hx.1 h.first).rational_le (Double.rounds_sub hx'.1 h.first)
    hpart.distance hpart'.distance (sub_le_sub_right hle _)

end IsProper

/-! ## frames with other zeros -/

/-- Two frames that differ in the sign of a zero only. -/
structure IsAlike (f f' : Frame) : Prop where
  rows : f.rows = f'.rows
  columns : f.columns = f'.columns
  first : f.xFirst = f'.xFirst
  last : f.xLast = f'.xLast
  least : rational f.yLeast = rational f'.yLeast
  greatest : rational f.yGreatest = rational f'.yGreatest

section
variable {f f' : Frame} {y y' : Float}

theorem IsAlike.refl (f : Frame) : f.IsAlike f := ⟨rfl, rfl, rfl, rfl, rfl, rfl⟩

theorem IsAlike.symm (h : f.IsAlike f') : f'.IsAlike f :=
  ⟨h.rows.symm, h.columns.symm, h.first.symm, h.last.symm, h.least.symm, h.greatest.symm⟩

theorem IsAlike.columnAt_eq (h : f.IsAlike f') (x : Float) : f.columnAt x = f'.columnAt x := by
  unfold columnAt
  rw [h.columns, h.first, h.last]

theorem IsAlike.inX_iff (h : f.IsAlike f') {x : Float} : f.InX x ↔ f'.InX x := by
  unfold InX
  rw [h.first, h.last]

theorem IsAlike.inY_iff (h : f.IsAlike f') : f.InY y ↔ f'.InY y := by
  unfold InY
  rw [h.least, h.greatest]

theorem IsAlike.height_eq (h : f.IsAlike f') (hf : f.IsProper) (hf' : f'.IsProper) :
    rational f.height = rational f'.height := by
  rcases lt_or_eq_of_le hf.ordered with hapart | hflat
  · have hapart' : rational f'.yLeast < rational f'.yGreatest := by
      rwa [← h.least, ← h.greatest]
    rw [hf.height_apart hapart, hf'.height_apart hapart']
    exact (Double.rounds_sub hf.greatest hf.least).rational_congr
      (Double.rounds_sub hf'.greatest hf'.least) hf.range hf'.range (by rw [h.least, h.greatest])
  · have hflat' : rational f'.yLeast = rational f'.yGreatest := by
      rwa [← h.least, ← h.greatest]
    rw [hf.height_flat hflat, hf'.height_flat hflat']

/-- **A greater value is drawn no lower.** -/
theorem IsAlike.rowAt_le (h : f.IsAlike f') (hf : f.IsProper) (hf' : f'.IsProper) (hy : f.InY y)
    (hy' : f'.InY y') (hle : rational y ≤ rational y') : f'.rowAt y' ≤ f.rowAt y := by
  obtain ⟨hlast, hlast0⟩ := lastCell_range hf.rows
  have hpart := hf.isPart_y hy
  have hpart' := hf'.isPart_y hy'
  unfold rowAt
  rw [← h.rows]
  refine nearest_mono (hpart'.scaled_mono hlast hlast0 hpart ?_ (h.height_eq hf hf').symm)
  exact (Double.rounds_sub hf'.greatest hy'.1).rational_le (Double.rounds_sub hf.greatest hy.1)
    hpart'.distance hpart.distance (sub_le_sub h.greatest.ge hle)

theorem IsAlike.rowAt_eq (h : f.IsAlike f') (hf : f.IsProper) (hf' : f'.IsProper)
    (hy : f.InY y) : f.rowAt y = f'.rowAt y :=
  le_antisymm (h.symm.rowAt_le hf' hf (h.inY_iff.mp hy) hy (le_refl _))
    (h.rowAt_le hf hf' hy (h.inY_iff.mp hy) (le_refl _))

end

namespace IsProper

variable {f : Frame} {x y y' : Float}

theorem rowAt_anti (h : f.IsProper) (hy : f.InY y) (hy' : f.InY y')
    (hle : rational y ≤ rational y') : f.rowAt y' ≤ f.rowAt y :=
  (IsAlike.refl f).rowAt_le h h hy hy' hle

/-! ## the ends -/

theorem columnAt_first (h : f.IsProper) (hx : f.InX x) (hend : rational x = rational f.xFirst) :
    f.columnAt x = 0 := by
  have hzero := (Double.rounds_sub hx.1 h.first).eq_zero (by rw [hend, sub_self])
  exact nearest_zero ((h.isPart_x hx).scaled_zero (lastCell_range h.columns).1 hzero)

theorem columnAt_last (h : f.IsProper) (hsize : IsExact f.columns) (hx : f.InX x)
    (hend : rational x = rational f.xLast) : f.columnAt x = (f.columns - 1).toNat := by
  have hpart := h.isPart_x hx
  have hwhole := (Double.rounds_sub hx.1 h.first).rational_congr (Double.rounds_sub h.last h.first)
    hpart.distance h.width (by rw [hend])
  exact nearest_last hsize (hpart.scaled_full (lastCell_range h.columns).1 hwhole)

theorem rowAt_greatest (h : f.IsProper) (hy : f.InY y)
    (hend : rational y = rational f.yGreatest) : f.rowAt y = 0 := by
  have hzero := (Double.rounds_sub h.greatest hy.1).eq_zero (by rw [hend, sub_self])
  exact nearest_zero ((h.isPart_y hy).scaled_zero (lastCell_range h.rows).1 hzero)

/-- The least value is in the last row, unless it is the greatest as well. -/
theorem rowAt_least (h : f.IsProper) (hsize : IsExact f.rows)
    (hapart : rational f.yLeast < rational f.yGreatest) (hy : f.InY y)
    (hend : rational y = rational f.yLeast) : f.rowAt y = (f.rows - 1).toNat := by
  have hpart := h.isPart_y hy
  have hwhole : rational (f.yGreatest - y) = rational f.height := by
    rw [h.height_apart hapart]
    exact (Double.rounds_sub h.greatest hy.1).rational_congr
      (Double.rounds_sub h.greatest h.least) hpart.distance h.range (by rw [hend])
  exact nearest_last hsize (hpart.scaled_full (lastCell_range h.rows).1 hwhole)

end IsProper

end AlgebraDesk.Plot.Frame
