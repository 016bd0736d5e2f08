import AlgebraDesk.Proofs.Plot.Painting
import AlgebraDesk.Proofs.Plot.Window

/-!
# What is seen of a plot

Each cell of a drawing shows a mark that falls on it, or else a sample, or else the axes.  No cell
is missing, none is outside, and nothing that is in the window is lost; the order of the samples
between the first and the last does not matter.

* `Frame.Places`          a point of numbers and its cell;
* `HasPoint`, `HasMark`, `OnXAxis`, `OnYAxis`   what there is to see at a cell;
* `Seen`                  the character that shows it;
* `Drawing.Depicts`       the drawing of samples and marks in a frame;
* `draw_eq`               samples that can be drawn have one;
* `Depicts.seen`, `Depicts.lines_eq`   what it shows, and that nothing else does matter.
-/

namespace AlgebraDesk.Plot

open Double (rational)

/-- A mark as it is given. -/
def markValue (m : Number × Number) : Value := .list [m.1.toValue, m.2.toValue]

/-! ## what there is to see -/

namespace Frame

/-- A point falls on a cell. -/
def Places (f : Frame) (p : Number × Number) (r c : Nat) : Prop :=
  ∃ x y, p.1.double? = some x ∧ p.2.double? = some y ∧ f.cell x y = .ok (r, c)

/-- A sample that counts falls on the cell. -/
def HasPoint (f : Frame) (ps : List (Number × Number)) (r c : Nat) : Prop :=
  ∃ p ∈ ps, isDrawable p.2 = true ∧ f.Places p r c

/-- A mark is inside the window. -/
def Covers (f : Frame) (m : Number × Number) : Prop := f.coversX m.1 = true ∧ f.coversY m.2 = true

/-- A mark inside the window falls on the cell. -/
def HasMark (f : Frame) (ms : List (Number × Number)) (r c : Nat) : Prop :=
  ∃ m ∈ ms, f.Covers m ∧ f.Places m r c

/-- The x axis is drawn, in this row. -/
def OnXAxis (f : Frame) (r : Nat) : Prop :=
  f.yLeast ≤ 0 ∧ 0 ≤ f.yGreatest ∧ f.rowOf 0 = .ok r

/-- The y axis is drawn, in this column. -/
def OnYAxis (f : Frame) (c : Nat) : Prop :=
  f.xFirst ≤ 0 ∧ 0 ≤ f.xLast ∧ f.columnOf 0 = .ok c

end Frame

/-- What is seen at a cell: marks cover samples, and samples cover axes. -/
inductive Seen (f : Frame) (ps ms : List (Number × Number)) (r c : Nat) : Char → Prop
  | mark (hmark : f.HasMark ms r c) : Seen f ps ms r c 'o'
  | point (hmark : ¬ f.HasMark ms r c) (hpoint : f.HasPoint ps r c) : Seen f ps ms r c '*'
  | crossing (hmark : ¬ f.HasMark ms r c) (hpoint : ¬ f.HasPoint ps r c) (hx : f.OnXAxis r)
      (hy : f.OnYAxis c) : Seen f ps ms r c '+'
  | horizontal (hmark : ¬ f.HasMark ms r c) (hpoint : ¬ f.HasPoint ps r c) (hx : f.OnXAxis r)
      (hy : ¬ f.OnYAxis c) : Seen f ps ms r c '-'
  | vertical (hmark : ¬ f.HasMark ms r c) (hpoint : ¬ f.HasPoint ps r c) (hx : ¬ f.OnXAxis r)
      (hy : f.OnYAxis c) : Seen f ps ms r c '|'
  | blank (hmark : ¬ f.HasMark ms r c) (hpoint : ¬ f.HasPoint ps r c) (hx : ¬ f.OnXAxis r)
      (hy : ¬ f.OnYAxis c) : Seen f ps ms r c ' '

/-- The drawing of samples and marks in a frame. -/
structure Drawing.Depicts (d : Drawing) (f : Frame) (ps ms : List (Number × Number)) : Prop where
  rows : d.rows = f.rows.toNat
  columns : d.columns = f.columns.toNat
  xAxis : ∀ r, d.xAxis? = some r ↔ f.OnXAxis r
  yAxis : ∀ c, d.yAxis? = some c ↔ f.OnYAxis c
  points : ∀ r c, (r, c) ∈ d.points ↔ f.HasPoint ps r c
  marks : ∀ r c, (r, c) ∈ d.marks ↔ f.HasMark ms r c

/-! ## cells of points -/

section
variable {f : Frame} {p m : Number × Number} {x y : Float} {r c : Nat}

theorem Frame.IsProper.places_iff (hp : f.IsProper) (hx : p.1.double? = some x)
    (hy : p.2.double? = some y) (hx' : f.InX x) (hy' : f.InY y) :
    f.Places p r c ↔ (r, c) = (f.rowAt y, f.columnAt x) := by
  constructor
  · rintro ⟨v, w, hv, hw, hcell⟩
    rw [hx, Option.some_inj] at hv
    rw [hy, Option.some_inj] at hw
    rw [← hv, ← hw, hp.cell_eq hx' hy'] at hcell
    exact (Except.ok.inj hcell).symm
  · intro h
    exact ⟨x, y, hx, hy, by rw [hp.cell_eq hx' hy', h]⟩

theorem Frame.IsProper.drawnCell_eq (hp : f.IsProper) (hx : f.InX x) (hy : f.InY y) :
    f.drawnCell x y = .ok (f.rowAt y, f.columnAt x) := by
  have hsize : ¬ (f.rows ≤ 0 ∨ f.columns ≤ 0) := by
    have hrows := hp.rows
    have hcolumns := hp.columns
    omega
  unfold drawnCell
  rw [hp.cell_eq hx hy, ok_bind, if_neg]
  · rfl
  · simpa using hsize

/-! ## axes -/

theorem zero_eq : (0.0 : Float) = 0 := by decide +kernel

theorem Frame.IsProper.xAxis_eq (hp : f.IsProper) :
    ∃ axis?, f.xAxis? = .ok axis? ∧ ∀ r, axis? = some r ↔ f.OnXAxis r := by
  unfold Frame.xAxis?
  by_cases hzero : f.coversY (.int 0) = true
  · have hrange := hp.coversY_zero.mp hzero
    have hin := hp.inY_zero hrange
    have hrows : ¬ f.rows ≤ 0 := by
      have hrows := hp.rows
      omega
    refine ⟨some (f.rowAt 0), ?_, fun r => ?_⟩
    · rw [if_pos hzero, zero_eq, hp.cell_eq hp.inX_first hin]
      simp only [ok_bind, if_neg hrows]
      rfl
    · unfold Frame.OnXAxis
      rw [hp.rowOf_eq hin, Except.ok.injEq, Option.some_inj]
      exact ⟨fun h => ⟨hrange.1, hrange.2, h⟩, fun h => h.2.2⟩
  · refine ⟨none, if_neg hzero, fun r => ⟨nofun, fun h => ?_⟩⟩
    exact absurd (hp.coversY_zero.mpr ⟨h.1, h.2.1⟩) hzero

theorem Frame.IsProper.yAxis_eq (hp : f.IsProper) :
    ∃ axis?, f.yAxis? = .ok axis? ∧ ∀ c, axis? = some c ↔ f.OnYAxis c := by
  unfold Frame.yAxis?
  by_cases hzero : f.coversX (.int 0) = true
  · have hrange := hp.coversX_zero.mp hzero
    have hin := hp.inX_zero hrange
    have hcolumns : ¬ (0 < f.rows && f.columns ≤ 0) = true := by
      have hcolumns := hp.columns
      simp only [Bool.and_eq_true, decide_eq_true_eq]
      omega
    refine ⟨some (f.columnAt 0), ?_, fun c => ?_⟩
    · rw [if_pos hzero, zero_eq, hp.cell_eq hin hp.inY_least]
      simp only [ok_bind, if_neg hcolumns]
      rfl
    · unfold Frame.OnYAxis
      rw [hp.columnOf_eq hin, Except.ok.injEq, Option.some_inj]
      exact ⟨fun h => ⟨hrange.1, hrange.2, h⟩, fun h => h.2.2⟩
  · refine ⟨none, if_neg hzero, fun c => ⟨nofun, fun h => ?_⟩⟩
    exact absurd (hp.coversX_zero.mpr ⟨h.1, h.2.1⟩) hzero

/-! ## samples and marks -/

/-- **Every sample that counts gets a cell**, and nothing else does. -/
theorem Frame.IsProper.pointCells_eq (hp : f.IsProper) {ps : List (Number × Number)}
    (h : ∀ p ∈ ps, isDrawable p.2 = true → ∃ x y, p.1.double? = some x ∧ p.2.double? = some y ∧
      f.InX x ∧ f.InY y) :
    ∃ cells, pointCells f (ps.map (Prod.map Number.toValue Number.toValue)) = .ok cells ∧
      ∀ r c, (r, c) ∈ cells ↔ f.HasPoint ps r c := by
  induction ps with
  | nil => exact ⟨[], rfl, fun _ _ => ⟨nofun, fun ⟨_, hmem, _⟩ => nomatch hmem⟩⟩
  | cons p ps ih =>
    obtain ⟨hfirst, hrest⟩ := List.forall_mem_cons.mp h
    obtain ⟨cells, hcells, hmem⟩ := ih hrest
    have hcons : ∀ r c, f.HasPoint (p :: ps) r c ↔
        isDrawable p.2 = true ∧ f.Places p r c ∨ f.HasPoint ps r c := fun r c => by
      unfold Frame.HasPoint
      rw [List.exists_mem_cons_iff]
    rw [List.map_cons, Prod.map_apply', pointCells, drawable?_eq, ok_bind]
    by_cases hdrawable : isDrawable p.2 = true
    · obtain ⟨x, y, hx, hy, hx', hy'⟩ := hfirst hdrawable
      refine ⟨(f.rowAt y, f.columnAt x) :: cells, ?_, fun r c => ?_⟩
      · simp only [if_pos hdrawable, hy, readCoordinate_of_double? hx, hp.drawnCell_eq hx' hy',
          hcells, ok_bind]
        rfl
      · rw [hcons, List.mem_cons, hmem, hp.places_iff hx hy hx' hy', and_iff_right hdrawable]
    · refine ⟨cells, ?_, fun r c => ?_⟩
      · simp only [if_neg hdrawable, hcells]
      · rw [hcons, hmem, or_iff_right fun h => hdrawable h.1]

theorem comparable_toValue (n : Number) : comparable n.toValue = .ok n := by
  unfold comparable
  rw [toNumber?_toValue]

/-- **A mark gets a cell when it is inside the window.** -/
theorem Frame.IsProper.markCell_eq (hp : f.IsProper) (m : Number × Number) :
    ∃ cell?, markCell? f (markValue m) = .ok cell? ∧
      ∀ r c, cell? = some (r, c) ↔ f.Covers m ∧ f.Places m r c := by
  have hread : readMark (markValue m) = .ok (m.1.toValue, m.2.toValue) := rfl
  unfold markCell?
  rw [hread, ok_bind]
  simp only [comparable_toValue, ok_bind]
  by_cases hx : f.coversX m.1 = true
  · rw [if_pos hx]
    by_cases hy : f.coversY m.2 = true
    · obtain ⟨x, hx', hin⟩ := hp.inX_of_covers hx
      obtain ⟨y, hy', hin'⟩ := hp.inY_of_covers hy
      refine ⟨some (f.rowAt y, f.columnAt x), ?_, fun r c => ?_⟩
      · rw [if_pos hy, readCoordinate_of_double? hx', readCoordinate_of_double? hy', ok_bind,
          ok_bind, hp.drawnCell_eq hin hin']
        rfl
      · rw [hp.places_iff hx' hy' hin hin', Option.some_inj]
        exact ⟨fun h => ⟨⟨hx, hy⟩, h.symm⟩, fun h => h.2.symm⟩
    · exact ⟨none, if_neg hy, fun r c => ⟨nofun, fun h => absurd h.1.2 hy⟩⟩
  · exact ⟨none, if_neg hx, fun r c => ⟨nofun, fun h => absurd h.1.1 hx⟩⟩

theorem Frame.IsProper.markCells_eq (hp : f.IsProper) (ms : List (Number × Number)) :
    ∃ cells, (ms.map markValue).mapM (markCell? f) = .ok cells ∧
      ∀ r c, (r, c) ∈ cells.filterMap id ↔ f.HasMark ms r c := by
  choose cell? hcell hiff using hp.markCell_eq
  refine ⟨ms.map cell?, ?_, fun r c => ?_⟩
  · rw [List.mapM_map]
    exact mapM_eq_pure fun m _ => hcell m
  · simp only [List.filterMap_map, List.mem_filterMap, Function.comp_apply, id_eq, hiff]
    rfl

end

/-! ## drawings -/

section
variable {xs ys : List Number} {ps ps' ms : List (Number × Number)} {first last : Float}
  {rows columns : Int} {f f' : Frame} {d d' : Drawing} {r c : Nat}

/-- **Samples that can be drawn are drawn**, on any canvas and with any marks. -/
theorem draw_eq (h : IsSampled xs ys first last) (ms : List (Number × Number)) (hrows : 1 ≤ rows)
    (hcolumns : 1 ≤ columns) : ∃ f d,
      frameOf (xs.map Number.toValue) (ys.map Number.toValue) rows columns = .ok f ∧
      Spans f ys first last rows columns ∧ f.IsProper ∧
      draw (xs.map Number.toValue) (ys.map Number.toValue) (ms.map markValue) rows columns
        = .ok d ∧
      d.Depicts f (xs.zip ys) ms := by
  obtain ⟨f, hframe, hspans⟩ := frameOf_eq h rows columns
  have hp := hspans.isProper h hrows hcolumns
  obtain ⟨xAxis?, hx, hx'⟩ := hp.xAxis_eq
  obtain ⟨yAxis?, hy, hy'⟩ := hp.yAxis_eq
  obtain ⟨points, hpoints, hpoints'⟩ :=
    hp.pointCells_eq fun p hmem => hspans.window_sample h hmem
  obtain ⟨marks, hmarks, hmarks'⟩ := hp.markCells_eq ms
  refine ⟨f, ⟨rows.toNat, columns.toNat, xAxis?, yAxis?, points, marks.filterMap id⟩, hframe,
    hspans, hp, ?_, ?_⟩
  · unfold draw
    rw [hframe, ok_bind, hx, ok_bind, hy, ok_bind, List.zip_map, hpoints, ok_bind, hmarks, ok_bind]
    rfl
  · exact {
      rows := congrArg Int.toNat hspans.rows.symm
      columns := congrArg Int.toNat hspans.columns.symm
      xAxis := hx'
      yAxis := hy'
      points := hpoints'
      marks := hmarks' }

namespace Drawing.Depicts

/-- **What is seen at a cell.** -/
theorem seen (h : d.Depicts f ps ms) (r c : Nat) : Seen f ps ms r c (d.charAt r c) := by
  have hx : (d.xAxis? == some r) = true ↔ f.OnXAxis r := beq_iff_eq.trans (h.xAxis r)
  have hy : (d.yAxis? == some c) = true ↔ f.OnYAxis c := beq_iff_eq.trans (h.yAxis c)
  have hpoint : d.points.contains (r, c) = true ↔ f.HasPoint ps r c :=
    List.contains_iff_mem.trans (h.points r c)
  have hmark : d.marks.contains (r, c) = true ↔ f.HasMark ms r c :=
    List.contains_iff_mem.trans (h.marks r c)
  unfold Drawing.charAt Drawing.axisChar
  split
  · rename_i hm
    exact .mark (hmark.mp hm)
  · rename_i hm
    rw [hmark] at hm
    split
    · rename_i hpt
      exact .point hm (hpoint.mp hpt)
    · rename_i hpt
      rw [hpoint] at hpt
      split
      · rename_i hyc
        split
        · rename_i hxr
          exact .crossing hm hpt (hx.mp hxr) (hy.mp hyc)
        · rename_i hxr
          exact .vertical hm hpt (mt hx.mpr hxr) (hy.mp hyc)
      · rename_i hyc
        split
        · rename_i hxr
          exact .horizontal hm hpt (hx.mp hxr) (mt hy.mpr hyc)
        · rename_i hxr
          exact .blank hm hpt (mt hx.mpr hxr) (mt hy.mpr hyc)

theorem isOnCanvas (h : d.Depicts f ps ms) (hp : f.IsProper) : d.IsOnCanvas := by
  have hplaces : ∀ {p : Number × Number} {r c : Nat}, f.Places p r c →
      r < d.rows ∧ c < d.columns := by
    rintro p r c ⟨x, y, -, -, hcell⟩
    rw [h.rows, h.columns]
    exact hp.cell_lt hcell
  exact {
    xAxis := by
      intro r hr
      obtain ⟨-, -, hrow⟩ := (h.xAxis r).mp hr
      rw [h.rows]
      exact hp.rowOf_lt hrow
    yAxis := by
      intro c hc
      obtain ⟨-, -, hcolumn⟩ := (h.yAxis c).mp hc
      rw [h.columns]
      exact hp.columnOf_lt hcolumn
    points := by
      rintro ⟨r, c⟩ hmem
      obtain ⟨p, -, -, hcell⟩ := (h.points r c).mp hmem
      exact hplaces hcell
    marks := by
      rintro ⟨r, c⟩ hmem
      obtain ⟨m, -, -, hcell⟩ := (h.marks r c).mp hmem
      exact hplaces hcell }

/-- **Only what there is to see matters.** -/
theorem lines_eq (h : d.Depicts f ps ms) (h' : d'.Depicts f' ps' ms) (halike : f.IsAlike f')
    (hx : ∀ r, f.OnXAxis r ↔ f'.OnXAxis r) (hy : ∀ c, f.OnYAxis c ↔ f'.OnYAxis c)
    (hpoints : ∀ r c, f.HasPoint ps r c ↔ f'.HasPoint ps' r c)
    (hmarks : ∀ r c, f.HasMark ms r c ↔ f'.HasMark ms r c) : d.lines = d'.lines := by
  have hchar : ∀ r c, d.charAt r c = d'.charAt r c := by
    intro r c
    have hmark : d.marks.contains (r, c) = d'.marks.contains (r, c) := by
      rw [Bool.eq_iff_iff, List.contains_iff_mem, List.contains_iff_mem, h.marks, h'.marks, hmarks]
    have hpoint : d.points.contains (r, c) = d'.points.contains (r, c) := by
      rw [Bool.eq_iff_iff, List.contains_iff_mem, List.contains_iff_mem, h.points, h'.points,
        hpoints]
    have hrow : (d.xAxis? == some r) = (d'.xAxis? == some r) := by
      rw [Bool.eq_iff_iff, beq_iff_eq, beq_iff_eq, h.xAxis, h'.xAxis, hx]
    have hcolumn : (d.yAxis? == some c) = (d'.yAxis? == some c) := by
      rw [Bool.eq_iff_iff, beq_iff_eq, beq_iff_eq, h.yAxis, h'.yAxis, hy]
    unfold Drawing.charAt Drawing.axisChar
    rw [hmark, hpoint, hrow, hcolumn]
  have hrows : d.rows = d'.rows := by rw [h.rows, h'.rows, halike.rows]
  have hcolumns : d.columns = d'.columns := by rw [h.columns, h'.columns, halike.columns]
  rw [Drawing.lines_eq, Drawing.lines_eq, hrows, hcolumns]
  exact picture_congr fun r _ c _ => hchar r c

end Drawing.Depicts

end

end AlgebraDesk.Plot
