import AlgebraDesk.Proofs.Plot.Drawing

/-!
# The picture of a plot

Samples between two x that are apart, with one value at least that counts, are drawn on a canvas of
any size and with any marks: the text has all its rows and columns, every character is the one that
the cell calls for, and what counts is there to see.

* `Spans.lines_perm`                the order of the samples does not matter;
* `charIn_point`, `charIn_mark`     samples and marks are seen;
* `draw_seen`                       the picture;
* `Spans.cells_ordered`, `column_axis`, `row_axis`   the order of the cells;
* `Spans.column_first`, `column_last`, `row_greatest`, `row_least`   the borders;
* `draw_ordered`                    where samples, marks and axes are in the picture.
-/

namespace AlgebraDesk.Plot

open Double (rational)

section
variable {xs ys xs' ys' : List Number} {ps ms : List (Number × Number)} {first last : Float}
  {rows columns : Int} {f f' : Frame} {d d' : Drawing} {p q : Number × Number}
  {x x' y y' : Float} {r c : Nat}

/-! ## the order of the samples -/

/-- The same values in another order span the same window, but for the signs of zeros. -/
theorem Spans.isAlike (hf : Spans f ys first last rows columns)
    (hf' : Spans f' ys' first last rows columns) (hys : ∀ y, y ∈ ys ↔ y ∈ ys') :
    f.IsAlike f' := by
  obtain ⟨y, hy, hcounts, hleast⟩ := hf.least
  obtain ⟨y', hy', hcounts', hleast'⟩ := hf'.least
  obtain ⟨z, hz, hdrawn, hgreatest⟩ := hf.greatest
  obtain ⟨z', hz', hdrawn', hgreatest'⟩ := hf'.greatest
  exact {
    rows := hf.rows.trans hf'.rows.symm
    columns := hf.columns.trans hf'.columns.symm
    first := hf.xFirst.trans hf'.xFirst.symm
    last := hf.xLast.trans hf'.xLast.symm
    least := le_antisymm (hf.inY ((hys y').mpr hy') hcounts' hleast').2.1
      (hf'.inY ((hys y).mp hy) hcounts hleast).2.1
    greatest := le_antisymm (hf'.inY ((hys z).mp hz) hdrawn hgreatest).2.2
      (hf.inY ((hys z').mpr hz') hdrawn' hgreatest').2.2 }

section
variable (halike : f.IsAlike f') (hp : f.IsProper) (hp' : f'.IsProper)
include halike hp hp'

theorem Frame.IsAlike.places_iff (hx : p.1.double? = some x) (hy : p.2.double? = some y)
    (hx' : f.InX x) (hy' : f.InY y) : f.Places p r c ↔ f'.Places p r c := by
  rw [hp.places_iff hx hy hx' hy',
    hp'.places_iff hx hy (halike.inX_iff.mp hx') (halike.inY_iff.mp hy'),
    halike.rowAt_eq hp hp' hy', halike.columnAt_eq]

theorem Frame.IsAlike.onXAxis_iff : f.OnXAxis r ↔ f'.OnXAxis r := by
  have hrange : (f.yLeast ≤ 0 ∧ 0 ≤ f.yGreatest) ↔ (f'.yLeast ≤ 0 ∧ 0 ≤ f'.yGreatest) := by
    rw [← hp.coversY_zero, ← hp'.coversY_zero, halike.coversY_eq hp hp']
  unfold Frame.OnXAxis
  rw [← and_assoc, ← and_assoc, ← hrange]
  refine and_congr_right fun hzero => ?_
  have hin := hp.inY_zero hzero
  rw [hp.rowOf_eq hin, hp'.rowOf_eq (halike.inY_iff.mp hin), halike.rowAt_eq hp hp' hin]

omit hp hp' in
theorem Frame.IsAlike.onYAxis_iff : f.OnYAxis c ↔ f'.OnYAxis c := by
  unfold Frame.OnYAxis Frame.columnOf
  rw [halike.first, halike.last, halike.columns]

theorem Frame.IsAlike.hasMark_iff : f.HasMark ms r c ↔ f'.HasMark ms r c := by
  unfold Frame.HasMark
  refine exists_congr fun m => and_congr_right fun _ => ?_
  have hcovers : f.Covers m ↔ f'.Covers m := by
    unfold Frame.Covers Frame.coversX
    rw [halike.coversY_eq hp hp', halike.first, halike.last]
  rw [← hcovers]
  refine and_congr_right fun hm => ?_
  obtain ⟨x, hx, hin⟩ := hp.inX_of_covers hm.1
  obtain ⟨y, hy, hin'⟩ := hp.inY_of_covers hm.2
  exact halike.places_iff hp hp' hx hy hin hin'

end

/-- **The order of the samples does not matter**, if the first and the last x stay. -/
theorem Spans.lines_perm (h : IsSampled xs ys first last) (h' : IsSampled xs' ys' first last)
    (hf : Spans f ys first last rows columns) (hf' : Spans f' ys' first last rows columns)
    (hp : f.IsProper) (hp' : f'.IsProper) (hd : d.Depicts f (xs.zip ys) ms)
    (hd' : d'.Depicts f' (xs'.zip ys') ms) (hperm : (xs.zip ys).Perm (xs'.zip ys')) :
    d.lines = d'.lines := by
  have hys : ys.Perm ys' := by
    have hsecond := hperm.map Prod.snd
    rwa [List.map_snd_zip h.paired.ge, List.map_snd_zip h'.paired.ge] at hsecond
  have halike := hf.isAlike hf' fun y => hys.mem_iff
  refine hd.lines_eq hd' halike (fun r => halike.onXAxis_iff hp hp') (fun c => halike.onYAxis_iff)
    (fun r c => ?_) fun r c => halike.hasMark_iff hp hp'
  unfold Frame.HasPoint
  refine exists_congr fun p => ?_
  rw [← hperm.mem_iff]
  refine and_congr_right fun hmem => and_congr_right fun hdrawable => ?_
  obtain ⟨x, y, hx, hy, hx', hy'⟩ := hf.window_sample h hmem hdrawable
  exact halike.places_iff hp hp' hx hy hx' hy'

/-! ## the picture -/

/-- The character in a row and a column. -/
def charIn (lines : List (List Char)) (r c : Nat) : Option Char := do
  let chars ← lines[r]?
  chars[c]?

theorem charIn_lines (hr : r < d.rows) (hc : c < d.columns) :
    charIn d.lines r c = some (d.charAt r c) := by
  unfold charIn
  rw [Drawing.lines_eq, getElem?_picture hr, Option.bind_eq_bind, Option.bind_some, List.getElem?_map,
    List.getElem?_range hc, Option.map_some]

section
variable (hp : f.IsProper) (hd : d.Depicts f ps ms) (hplaces : f.Places p r c)
include hp hd hplaces

theorem Drawing.Depicts.charIn_places : charIn d.lines r c = some (d.charAt r c) := by
  obtain ⟨x, y, -, -, hcell⟩ := hplaces
  obtain ⟨hr, hc⟩ := hp.cell_lt hcell
  exact charIn_lines (hd.rows ▸ hr) (hd.columns ▸ hc)

/-- A sample is seen, or the mark that covers it. -/
theorem Drawing.Depicts.charIn_point (hmem : p ∈ ps) (hdrawable : isDrawable p.2 = true) :
    charIn d.lines r c = some '*' ∨ charIn d.lines r c = some 'o' := by
  have hpoint : (r, c) ∈ d.points := (hd.points r c).mpr ⟨p, hmem, hdrawable, hplaces⟩
  rw [hd.charIn_places hp hplaces, Drawing.charAt, if_pos (List.contains_iff_mem.mpr hpoint)]
  split
  · exact .inr rfl
  · exact .inl rfl

theorem Drawing.Depicts.charIn_mark (hmem : p ∈ ms) (hcovers : f.Covers p) :
    charIn d.lines r c = some 'o' := by
  have hmark : (r, c) ∈ d.marks := (hd.marks r c).mpr ⟨p, hmem, hcovers, hplaces⟩
  rw [hd.charIn_places hp hplaces, Drawing.charAt, if_pos (List.contains_iff_mem.mpr hmark)]

end

/-- **The picture of samples and marks.**  It has all rows and columns and is what painting in four
steps leaves; each character is the one that is called for; no sample that counts is lost, nor a
mark inside the window; and the order of the samples does not matter. -/
theorem draw_seen (h : IsSampled xs ys first last) (ms : List (Number × Number))
    (hrows : 1 ≤ rows) (hcolumns : 1 ≤ columns) : ∃ f d,
    frameOf (xs.map Number.toValue) (ys.map Number.toValue) rows columns = .ok f ∧
    Spans f ys first last rows columns ∧
    draw (xs.map Number.toValue) (ys.map Number.toValue) (ms.map markValue) rows columns = .ok d ∧
    Text.pieces (· == '\n') d.text.toList = d.lines ∧
    d.lines.length = rows.toNat ∧ (∀ line ∈ d.lines, line.length = columns.toNat) ∧
    paint d = some d.lines ∧
    (∀ r < rows.toNat, ∀ c < columns.toNat, ∃ ch, charIn d.lines r c = some ch ∧
      Seen f (xs.zip ys) ms r c ch) ∧
    (∀ p ∈ xs.zip ys, isDrawable p.2 = true → ∃ r c, f.Places p r c ∧
      (charIn d.lines r c = some '*' ∨ charIn d.lines r c = some 'o')) ∧
    (∀ m ∈ ms, f.Covers m → ∃ r c, f.Places m r c ∧ charIn d.lines r c = some 'o') ∧
    ∀ xs' ys', IsSampled xs' ys' first last → (xs.zip ys).Perm (xs'.zip ys') → ∃ d',
      draw (xs'.map Number.toValue) (ys'.map Number.toValue) (ms.map markValue) rows columns
        = .ok d' ∧ d'.text = d.text := by
  obtain ⟨f, d, hframe, hspans, hp, hdraw, hd⟩ := draw_eq h ms hrows hcolumns
  have hcanvas := hd.isOnCanvas hp
  have hdrows : d.rows = rows.toNat := by rw [hd.rows, hspans.rows]
  have hdcolumns : d.columns = columns.toNat := by rw [hd.columns, hspans.columns]
  refine ⟨f, d, hframe, hspans, hdraw, d.lines_text ?_, ?_, ?_, paint_eq hcanvas, ?_, ?_, ?_, ?_⟩
  · omega
  · rw [Drawing.lines_eq, length_picture, hdrows]
  · intro line hline
    rw [← hdcolumns]
    exact length_of_mem_picture (Drawing.lines_eq d ▸ hline)
  · intro r hr c hc
    exact ⟨_, charIn_lines (hdrows ▸ hr) (hdcolumns ▸ hc), hd.seen r c⟩
  · intro p hmem hdrawable
    obtain ⟨x, y, hx, hy, hx', hy'⟩ := hspans.window_sample h hmem hdrawable
    have hplaces := (hp.places_iff hx hy hx' hy').mpr rfl
    exact ⟨_, _, hplaces, hd.charIn_point hp hplaces hmem hdrawable⟩
  · intro m hmem hcovers
    obtain ⟨x, hx, hx'⟩ := hp.inX_of_covers hcovers.1
    obtain ⟨y, hy, hy'⟩ := hp.inY_of_covers hcovers.2
    have hplaces := (hp.places_iff hx hy hx' hy').mpr rfl
    exact ⟨_, _, hplaces, hd.charIn_mark hp hplaces hmem hcovers⟩
  · intro xs' ys' h' hperm
    obtain ⟨f', d', -, hspans', hp', hdraw', hd'⟩ := draw_eq h' ms hrows hcolumns
    refine ⟨d', hdraw', ?_⟩
    unfold Drawing.text
    rw [hspans.lines_perm h h' hspans' hp hp' hd hd' hperm]

theorem isSampled_diagonal : IsSampled [.real 0, .real 1] [.real 0, .real 1] 0 1 where
  paired := rfl
  start := ⟨_, rfl, rfl⟩
  stop := ⟨_, rfl, rfl⟩
  within := by
    intro x hx
    simp only [List.mem_cons, List.not_mem_nil, or_false] at hx
    rcases hx with rfl | rfl
    · exact ⟨0, rfl, rfl, by decide +kernel, by decide +kernel⟩
    · exact ⟨1, rfl, rfl, by decide +kernel, by decide +kernel⟩
  apart := by decide +kernel
  width := by decide +kernel
  drawable := ⟨.real 0, List.mem_cons_self, by decide +kernel⟩

theorem draw_seen_diagonal : ∃ d,
    draw ([Number.real 0, .real 1].map Number.toValue) ([Number.real 0, .real 1].map Number.toValue)
      ([].map markValue) 2 3 = .ok d ∧ d.lines.length = 2 ∧ paint d = some d.lines := by
  obtain ⟨-, d, -, -, hdraw, -, hlength, -, hpaint, -⟩ :=
    draw_seen isSampled_diagonal [] (show (1 : Int) ≤ 2 by decide) (show (1 : Int) ≤ 3 by decide)
  exact ⟨d, hdraw, hlength, hpaint⟩

/-! ## the order of the cells -/

/-- What is drawn: a sample that counts, or a mark inside the window. -/
def Frame.Shows (f : Frame) (ps ms : List (Number × Number)) (p : Number × Number) : Prop :=
  (p ∈ ps ∧ isDrawable p.2 = true) ∨ (p ∈ ms ∧ f.Covers p)

theorem value?_of_double? {n : Number} (hx : n.double? = some x) (hfinite : x.isFinite = true) :
    ∃ v, n.value? = some v := by
  cases n with
  | int k => exact ⟨k, rfl⟩
  | real z =>
    obtain rfl : z = x := Option.some.inj hx
    exact ⟨_, Number.value?_real hfinite⟩

/-- The order of numbers is the order of their doubles. -/
theorem rational_le_of_le {m n : Number} (hx : m.double? = some x) (hy : n.double? = some y)
    (hx' : x.isFinite = true) (hy' : y.isFinite = true) (h : m.le n = true) :
    rational x ≤ rational y := by
  obtain ⟨u, hu⟩ := value?_of_double? hx hx'
  obtain ⟨v, hv⟩ := value?_of_double? hy hy'
  exact Number.double?_mono hu hv hx hy ((Number.le_iff hu hv).mp h)

theorem double?_zero : (Number.int 0).double? = some 0 := by
  rw [Number.double?_int, Double.ofInt?_eq (by decide), Double.integer_zero]

/-- A number no greater is drawn no further to the right. -/
theorem Frame.IsProper.columnAt_le (hp : f.IsProper) {m n : Number} (hm : m.double? = some x)
    (hn : n.double? = some x') (hx : f.InX x) (hx' : f.InX x') (h : m.le n = true) :
    f.columnAt x ≤ f.columnAt x' :=
  hp.columnAt_mono hx hx' (rational_le_of_le hm hn hx.1 hx'.1 h)

/-- A number no greater is drawn no higher. -/
theorem Frame.IsProper.le_rowAt (hp : f.IsProper) {m n : Number} (hm : m.double? = some y)
    (hn : n.double? = some y') (hy : f.InY y) (hy' : f.InY y') (h : m.le n = true) :
    f.rowAt y' ≤ f.rowAt y :=
  hp.rowAt_anti hy hy' (rational_le_of_le hm hn hy.1 hy'.1 h)

section
variable (h : IsSampled xs ys first last) (hf : Spans f ys first last rows columns)
  (hp : f.IsProper)
include h hf hp

theorem Spans.window_shown (hshown : f.Shows (xs.zip ys) ms p) :
    ∃ x y, p.1.double? = some x ∧ p.2.double? = some y ∧ f.InX x ∧ f.InY y := by
  rcases hshown with ⟨hmem, hdrawable⟩ | ⟨-, hcovers⟩
  · exact hf.window_sample h hmem hdrawable
  · obtain ⟨x, hx, hx'⟩ := hp.inX_of_covers hcovers.1
    obtain ⟨y, hy, hy'⟩ := hp.inY_of_covers hcovers.2
    exact ⟨x, y, hx, hy, hx', hy'⟩

/-- Two things that are drawn. -/
theorem Spans.cells_ordered (hshown : f.Shows (xs.zip ys) ms p)
    (hshown' : f.Shows (xs.zip ys) ms q) : ∃ r c r' c', f.Places p r c ∧ f.Places q r' c' ∧
      (p.1.le q.1 = true → c ≤ c') ∧ (p.2.le q.2 = true → r' ≤ r) := by
  obtain ⟨x, y, hx, hy, hinX, hinY⟩ := hf.window_shown h hp hshown
  obtain ⟨x', y', hx', hy', hinX', hinY'⟩ := hf.window_shown h hp hshown'
  exact ⟨_, _, _, _, (hp.places_iff hx hy hinX hinY).mpr rfl,
    (hp.places_iff hx' hy' hinX' hinY').mpr rfl, hp.columnAt_le hx hx' hinX hinX',
    hp.le_rowAt hy hy' hinY hinY'⟩

/-- The side of the y axis on which something is drawn. -/
theorem Spans.column_axis {axis : Nat} (hshown : f.Shows (xs.zip ys) ms p)
    (hplaces : f.Places p r c) (haxis : f.OnYAxis axis) :
    (p.1.le (.int 0) = true → c ≤ axis) ∧ ((Number.int 0).le p.1 = true → axis ≤ c) := by
  obtain ⟨x, y, hx, hy, hinX, hinY⟩ := hf.window_shown h hp hshown
  obtain ⟨-, rfl⟩ := Prod.mk.inj ((hp.places_iff hx hy hinX hinY).mp hplaces)
  obtain ⟨hlow, hhigh, hcolumn⟩ := haxis
  have hin := hp.inX_zero ⟨hlow, hhigh⟩
  rw [hp.columnOf_eq hin, Except.ok.injEq] at hcolumn
  rw [← hcolumn]
  exact ⟨hp.columnAt_le hx double?_zero hinX hin, hp.columnAt_le double?_zero hx hin hinX⟩

/-- The side of the x axis on which something is drawn. -/
theorem Spans.row_axis {axis : Nat} (hshown : f.Shows (xs.zip ys) ms p)
    (hplaces : f.Places p r c) (haxis : f.OnXAxis axis) :
    (p.2.le (.int 0) = true → axis ≤ r) ∧ ((Number.int 0).le p.2 = true → r ≤ axis) := by
  obtain ⟨x, y, hx, hy, hinX, hinY⟩ := hf.window_shown h hp hshown
  obtain ⟨rfl, -⟩ := Prod.mk.inj ((hp.places_iff hx hy hinX hinY).mp hplaces)
  obtain ⟨hlow, hhigh, hrow⟩ := haxis
  have hin := hp.inY_zero ⟨hlow, hhigh⟩
  rw [hp.rowOf_eq hin, Except.ok.injEq] at hrow
  rw [← hrow]
  exact ⟨hp.le_rowAt hy double?_zero hinY hin, hp.le_rowAt double?_zero hy hin hinY⟩

/-- The first x is drawn in the first column. -/
theorem Spans.column_first (hmem : p ∈ xs.zip ys) (hdrawable : isDrawable p.2 = true)
    (hhead : xs.head? = some p.1) (hplaces : f.Places p r c) : c = 0 := by
  obtain ⟨x, y, hx, hy, hx', hy'⟩ := hf.window_sample h hmem hdrawable
  obtain ⟨v, hv, hfirst⟩ := h.start
  rw [hhead, Option.some_inj] at hv
  rw [← hv, hx, Option.some_inj, ← hf.xFirst] at hfirst
  obtain ⟨-, hc⟩ := Prod.mk.inj ((hp.places_iff hx hy hx' hy').mp hplaces)
  rw [hc]
  exact hp.columnAt_first hx' (by rw [hfirst])

/-- The last x is drawn in the last column. -/
theorem Spans.column_last (hsize : Frame.IsExact columns) (hmem : p ∈ xs.zip ys)
    (hdrawable : isDrawable p.2 = true) (hend : xs.getLast? = some p.1)
    (hplaces : f.Places p r c) : c = (columns - 1).toNat := by
  obtain ⟨x, y, hx, hy, hx', hy'⟩ := hf.window_sample h hmem hdrawable
  obtain ⟨v, hv, hlast⟩ := h.stop
  rw [hend, Option.some_inj] at hv
  rw [← hv, hx, Option.some_inj, ← hf.xLast] at hlast
  obtain ⟨-, hc⟩ := Prod.mk.inj ((hp.places_iff hx hy hx' hy').mp hplaces)
  rw [hc, ← hf.columns]
  exact hp.columnAt_last (hf.columns ▸ hsize) hx' (by rw [hlast])

/-- The greatest value that counts is drawn in the first row. -/
theorem Spans.row_greatest (hmem : p ∈ xs.zip ys) (hdrawable : isDrawable p.2 = true)
    (hgreatest : ∀ y ∈ ys, isDrawable y = true → y.le p.2 = true) (hplaces : f.Places p r c) :
    r = 0 := by
  obtain ⟨x, y, hx, hy, hx', hy'⟩ := hf.window_sample h hmem hdrawable
  obtain ⟨z, hz, hdrawn, hdouble⟩ := hf.greatest
  have hle := rational_le_of_le hdouble hy hp.greatest hy'.1 (hgreatest z hz hdrawn)
  obtain ⟨hr, -⟩ := Prod.mk.inj ((hp.places_iff hx hy hx' hy').mp hplaces)
  rw [hr]
  exact hp.rowAt_greatest hy' (le_antisymm hy'.2.2 hle)

/-- The least value that counts is drawn in the last row, if there is a greater one. -/
theorem Spans.row_least (hsize : Frame.IsExact rows) (hmem : p ∈ xs.zip ys)
    (hdrawable : isDrawable p.2 = true)
    (hleast : ∀ y ∈ ys, isDrawable y = true → p.2.le y = true)
    (hother : ∃ y ∈ ys, isDrawable y = true ∧ p.2.lt y = true) (hplaces : f.Places p r c) :
    r = (rows - 1).toNat := by
  obtain ⟨x, y, hx, hy, hx', hy'⟩ := hf.window_sample h hmem hdrawable
  obtain ⟨z, hz, hdrawn, hdouble⟩ := hf.least
  have hle := rational_le_of_le hy hdouble hy'.1 hp.least (hleast z hz hdrawn)
  have hend : rational y = rational f.yLeast := le_antisymm hle hy'.2.1
  have hapart : rational f.yLeast < rational f.yGreatest := by
    obtain ⟨w, hw, hcounts, hlt⟩ := hother
    obtain ⟨v, hv, -, hvalue, -⟩ := exists_drawable hcounts
    calc rational f.yLeast = rational y := hend.symm
      _ < rational v :=
        (Number.lt_iff (double_of_drawable hdrawable hy).2.1 hvalue).mp hlt
      _ ≤ rational f.yGreatest := (hf.inY hw hcounts hv).2.2
  obtain ⟨hr, -⟩ := Prod.mk.inj ((hp.places_iff hx hy hx' hy').mp hplaces)
  rw [hr, ← hf.rows]
  exact hp.rowAt_least (hf.rows ▸ hsize) hapart hy' hend

end

/-- **Where things are in the picture.**  Columns go with x and rows against y, for samples, marks
and axes alike.  The first x is in the first column and the last in the last one; the greatest value
is in the first row and the least, if it is another, in the last one.  The numbers of the last
column and of the last row have to be doubles. -/
theorem draw_ordered (h : IsSampled xs ys first last) (ms : List (Number × Number))
    (hrows : 1 ≤ rows) (hcolumns : 1 ≤ columns) : ∃ f,
    frameOf (xs.map Number.toValue) (ys.map Number.toValue) rows columns = .ok f ∧
    Spans f ys first last rows columns ∧
    (∀ p q, f.Shows (xs.zip ys) ms p → f.Shows (xs.zip ys) ms q →
      ∃ r c r' c', f.Places p r c ∧ f.Places q r' c' ∧
        (p.1.le q.1 = true → c ≤ c') ∧ (p.2.le q.2 = true → r' ≤ r)) ∧
    (∀ p r c, f.Shows (xs.zip ys) ms p → f.Places p r c →
      (∀ axis, f.OnYAxis axis → (p.1.le (.int 0) = true → c ≤ axis) ∧
        ((Number.int 0).le p.1 = true → axis ≤ c)) ∧
      ∀ axis, f.OnXAxis axis → (p.2.le (.int 0) = true → axis ≤ r) ∧
        ((Number.int 0).le p.2 = true → r ≤ axis)) ∧
    (∀ p ∈ xs.zip ys, isDrawable p.2 = true → ∀ r c, f.Places p r c →
      (xs.head? = some p.1 → c = 0) ∧
      (Frame.IsExact columns → xs.getLast? = some p.1 → c = (columns - 1).toNat) ∧
      ((∀ y ∈ ys, isDrawable y = true → y.le p.2 = true) → r = 0) ∧
      (Frame.IsExact rows → (∀ y ∈ ys, isDrawable y = true → p.2.le y = true) →
        (∃ y ∈ ys, isDrawable y = true ∧ p.2.lt y = true) → r = (rows - 1).toNat)) := by
  obtain ⟨f, hframe, hspans⟩ := frameOf_eq h rows columns
  have hp := hspans.isProper h hrows hcolumns
  refine ⟨f, hframe, hspans, fun p q => hspans.cells_ordered h hp, ?_, ?_⟩
  · intro p r c hshown hplaces
    exact ⟨fun axis => hspans.column_axis h hp hshown hplaces,
      fun axis => hspans.row_axis h hp hshown hplaces⟩
  · intro p hmem hdrawable r c hplaces
    exact ⟨fun hhead => hspans.column_first h hp hmem hdrawable hhead hplaces,
      fun hsize hend => hspans.column_last h hp hsize hmem hdrawable hend hplaces,
      fun hgreatest => hspans.row_greatest h hp hmem hdrawable hgreatest hplaces,
      fun hsize hleast hother =>
        hspans.row_least h hp hsize hmem hdrawable hleast hother hplaces⟩

theorem draw_ordered_diagonal : ∃ f,
    frameOf ([Number.real 0, .real 1].map Number.toValue)
      ([Number.real 0, .real 1].map Number.toValue) 2 3 = .ok f ∧
    (∀ r c, f.Places (.real 0, .real 0) r c → r = 1 ∧ c = 0) ∧
    ∀ r c, f.Places (.real 1, .real 1) r c → r = 0 ∧ c = 2 := by
  obtain ⟨f, hframe, -, -, -, hends⟩ :=
    draw_ordered isSampled_diagonal [] (show (1 : Int) ≤ 2 by decide)
      (show (1 : Int) ≤ 3 by decide)
  have hcounts : isDrawable (.real 0) = true ∧ isDrawable (.real 1) = true := by decide +kernel
  have hless : (Number.real 0).lt (.real 1) = true := by decide +kernel
  have hrange : ∀ y ∈ [Number.real 0, .real 1], isDrawable y = true →
      (Number.real 0).le y = true ∧ y.le (.real 1) = true := by
    intro y hy _
    simp only [List.mem_cons, List.not_mem_nil, or_false] at hy
    rcases hy with rfl | rfl <;> decide +kernel
  refine ⟨f, hframe, fun r c hplaces => ?_, fun r c hplaces => ?_⟩
  · obtain ⟨hfirst, -, -, hleast⟩ := hends _ List.mem_cons_self hcounts.1 r c hplaces
    exact ⟨hleast (Frame.isExact_of_le (by decide) (by decide))
      (fun y hy hdrawable => (hrange y hy hdrawable).1)
      ⟨_, List.mem_cons_of_mem _ List.mem_cons_self, hcounts.2, hless⟩, hfirst rfl⟩
  · obtain ⟨-, hlast, hgreatest, -⟩ :=
      hends _ (List.mem_cons_of_mem _ List.mem_cons_self) hcounts.2 r c hplaces
    exact ⟨hgreatest fun y hy hdrawable => (hrange y hy hdrawable).2,
      hlast (Frame.isExact_of_le (by decide) (by decide)) rfl⟩

end

end AlgebraDesk.Plot
