import AlgebraDesk.Plot.Canvas
import AlgebraDesk.Proofs.Result
import AlgebraDesk.Proofs.Text

/-!
# Painting over a canvas

What is seen of a drawing can also be had by painting: the canvas is blank at first, the axes are
painted on it, then the points, and the marks at last, each over what was there before.  A stroke
outside the canvas fails.  When all cells of a drawing are on the canvas, no stroke fails and what
remains is what the drawing shows.

* `picture`              a canvas by the character of each cell;
* `stroke`, `strokes_eq`   one character over a cell, and over many;
* `paintRow_eq`, `paintColumn_eq`   the axes;
* `paint`, `paint_eq`    the four steps;
* `lines_text`           the text of a drawing has the lines of its picture.
-/

namespace AlgebraDesk.Plot

/-- A canvas as its lines. -/
abbrev Canvas := List (List Char)

/-- The canvas with a character in each cell. -/
def picture (rows columns : Nat) (see : Nat → Nat → Char) : Canvas :=
  (List.range rows).map fun r => (List.range columns).map fun c => see r c

/-! ## steps -/

/-- A character over a cell; none outside the canvas. -/
def stroke (ch : Char) (canvas : Canvas) (cell : Nat × Nat) : Option Canvas :=
  match canvas[cell.1]? with
  | some chars =>
    if cell.2 < chars.length then some (canvas.set cell.1 (chars.set cell.2 ch)) else none
  | none => none

def paintRow (columns : Nat) (canvas : Canvas) (r : Nat) : Option Canvas :=
  if r < canvas.length then some (canvas.set r (List.replicate columns '-')) else none

/-- Where there is a row already, a column crosses it. -/
def paintColumn (canvas : Canvas) (c : Nat) : Option Canvas :=
  canvas.mapM fun chars => chars[c]?.map fun ch => chars.set c (if ch = '-' then '+' else '|')

/-- A step for an axis that may not be there. -/
def paintAxis (step : Canvas → Nat → Option Canvas) (canvas : Canvas) : Option Nat → Option Canvas
  | some i => step canvas i
  | none => some canvas

def paint (d : Drawing) : Option Canvas := do
  let blank := List.replicate d.rows (List.replicate d.columns ' ')
  let canvas ← paintAxis (paintRow d.columns) blank d.xAxis?
  let canvas ← paintAxis paintColumn canvas d.yAxis?
  let canvas ← d.points.foldlM (stroke '*') canvas
  d.marks.foldlM (stroke 'o') canvas

section
variable {rows columns r c : Nat} {see see' : Nat → Nat → Char} {ch : Char}

/-! ## pictures -/

theorem map_range_set {α : Type} (f : Nat → α) (n i : Nat) (a : α) :
    ((List.range n).map f).set i a = (List.range n).map fun j => if j = i then a else f j := by
  refine List.ext_getElem (by simp) fun j hj hj' => ?_
  simp only [List.getElem_set, List.getElem_map, List.getElem_range, eq_comm (a := i)]

theorem map_range_replicate {α : Type} (n : Nat) (a : α) :
    (List.range n).map (fun _ => a) = List.replicate n a := by
  rw [List.map_const', List.length_range]

theorem length_picture (rows columns : Nat) (see : Nat → Nat → Char) :
    (picture rows columns see).length = rows := by
  rw [picture, List.length_map, List.length_range]

theorem getElem?_picture (h : r < rows) :
    (picture rows columns see)[r]? = some ((List.range columns).map fun c => see r c) := by
  rw [picture, List.getElem?_map, List.getElem?_range h]
  rfl

theorem length_of_mem_picture {line : List Char} (h : line ∈ picture rows columns see) :
    line.length = columns := by
  obtain ⟨r, -, rfl⟩ := List.mem_map.mp h
  rw [List.length_map, List.length_range]

theorem picture_congr (h : ∀ r < rows, ∀ c < columns, see r c = see' r c) :
    picture rows columns see = picture rows columns see' := by
  refine List.map_congr_left fun r hr => List.map_congr_left fun c hc => ?_
  exact h r (List.mem_range.mp hr) c (List.mem_range.mp hc)

/-- Another line in the place of one. -/
theorem set_picture (f : Nat → Char) : (picture rows columns see).set r ((List.range columns).map f)
    = picture rows columns fun r' c => if r' = r then f c else see r' c := by
  rw [picture, map_range_set]
  refine List.map_congr_left fun r' _ => ?_
  by_cases hsame : r' = r
  · simp only [if_pos hsame]
  · simp only [if_neg hsame]

/-! ## what a step does -/

theorem stroke_picture (hr : r < rows) (hc : c < columns) :
    stroke ch (picture rows columns see) (r, c)
      = some (picture rows columns fun r' c' => if (r', c') = (r, c) then ch else see r' c') := by
  unfold stroke
  simp only [getElem?_picture hr, List.length_map, List.length_range, if_pos hc]
  rw [map_range_set, set_picture]
  refine congrArg some (picture_congr fun r' _ c' _ => ?_)
  by_cases hsame : r' = r
  · simp only [hsame, Prod.mk.injEq, true_and, if_true]
  · simp only [hsame, Prod.mk.injEq, false_and, if_false]

/-- **Strokes of one character** may come in any order, and more than once. -/
theorem strokes_eq {cells : List (Nat × Nat)} (h : ∀ p ∈ cells, p.1 < rows ∧ p.2 < columns) :
    cells.foldlM (stroke ch) (picture rows columns see)
      = some (picture rows columns fun r c => if cells.contains (r, c) then ch else see r c) := by
  induction cells generalizing see with
  | nil => rfl
  | cons p cells ih =>
    obtain ⟨hp, hcells⟩ := List.forall_mem_cons.mp h
    rw [List.foldlM_cons, stroke_picture hp.1 hp.2]
    refine (ih hcells).trans (congrArg some (picture_congr fun r _ c _ => ?_))
    simp only [List.contains_cons]
    by_cases hmem : cells.contains (r, c) = true
    · rw [hmem, if_pos rfl, Bool.or_true, if_pos rfl]
    · rw [Bool.not_eq_true] at hmem
      rw [hmem, if_neg Bool.false_ne_true, Bool.or_false]
      exact if_congr (beq_iff_eq.trans Iff.rfl).symm rfl rfl

theorem paintRow_eq (hr : r < rows) :
    paintRow columns (picture rows columns see) r
      = some (picture rows columns fun r' c => if r' = r then '-' else see r' c) := by
  unfold paintRow
  rw [length_picture, if_pos hr, ← map_range_replicate, set_picture]

theorem paintColumn_eq (hc : c < columns) :
    paintColumn (picture rows columns see) c = some (picture rows columns fun r c' =>
      if c' = c then (if see r c = '-' then '+' else '|') else see r c') := by
  unfold paintColumn picture
  rw [List.mapM_map]
  refine mapM_eq_pure fun r _ => ?_
  rw [Function.comp_apply, List.getElem?_map, List.getElem?_range hc, Option.map_some, Option.map_some, map_range_set]
  rfl

/-! ## the whole drawing -/

/-- All cells are on the canvas. -/
structure Drawing.IsOnCanvas (d : Drawing) : Prop where
  xAxis : ∀ r ∈ d.xAxis?, r < d.rows
  yAxis : ∀ c ∈ d.yAxis?, c < d.columns
  points : ∀ p ∈ d.points, p.1 < d.rows ∧ p.2 < d.columns
  marks : ∀ p ∈ d.marks, p.1 < d.rows ∧ p.2 < d.columns

theorem Drawing.lines_eq (d : Drawing) : d.lines = picture d.rows d.columns d.charAt := rfl

/-- **Painting succeeds and shows the drawing.** -/
theorem paint_eq {d : Drawing} (h : d.IsOnCanvas) : paint d = some d.lines := by
  have hblank : List.replicate d.rows (List.replicate d.columns ' ')
      = picture d.rows d.columns fun _ _ => ' ' := by
    rw [← map_range_replicate, ← map_range_replicate]
    rfl
  have hx : paintAxis (paintRow d.columns) (picture d.rows d.columns fun _ _ => ' ') d.xAxis?
      = some (picture d.rows d.columns fun r _ => if d.xAxis? == some r then '-' else ' ') := by
    cases hrow : d.xAxis? with
    | none => rfl
    | some r =>
      rw [paintAxis, paintRow_eq (h.xAxis r hrow)]
      refine congrArg some (picture_congr fun r' _ _ _ => if_congr ?_ rfl rfl)
      rw [beq_iff_eq, Option.some_inj, eq_comm]
  have hy : paintAxis paintColumn (picture d.rows d.columns fun r _ =>
        if d.xAxis? == some r then '-' else ' ') d.yAxis?
      = some (picture d.rows d.columns d.axisChar) := by
    unfold Drawing.axisChar
    cases hcolumn : d.yAxis? with
    | none => rfl
    | some c =>
      rw [paintAxis, paintColumn_eq (h.yAxis c hcolumn)]
      refine congrArg some (picture_congr fun r _ c' _ => if_congr ?_ ?_ rfl)
      · rw [beq_iff_eq, Option.some_inj, eq_comm]
      · cases d.xAxis? == some r <;> rfl
  unfold paint
  simp only [hblank, hx, hy, Option.bind_eq_bind, Option.bind_some, strokes_eq h.points,
    strokes_eq h.marks]
  rfl

/-! ## the text -/

theorem pieces_intercalate {lines : List (List Char)} (hne : lines ≠ [])
    (h : ∀ line ∈ lines, '\n' ∉ line) :
    Text.pieces (· == '\n') (['\n'].intercalate lines) = lines := by
  have hline : ∀ {line : List Char}, '\n' ∉ line → ∀ d ∈ line, (d == '\n') = false := by
    rintro line hnot d hd
    rw [beq_eq_false_iff_ne]
    rintro rfl
    exact hnot hd
  induction lines with
  | nil => exact absurd rfl hne
  | cons line lines ih =>
    obtain ⟨hfirst, hrest⟩ := List.forall_mem_cons.mp h
    cases lines with
    | nil => rw [List.intercalate_singleton, Text.pieces_uncut (hline hfirst)]
    | cons line' lines =>
      rw [List.intercalate_cons_cons, List.append_assoc, List.singleton_append,
        Text.pieces_append (hline hfirst) rfl, ih (List.cons_ne_nil _ _) hrest]

theorem Drawing.charAt_ne_newline (d : Drawing) (r c : Nat) : d.charAt r c ≠ '\n' := by
  unfold Drawing.charAt Drawing.axisChar
  split_ifs <;> decide

/-- **The text of a drawing has the lines of its picture**, if there is any. -/
theorem Drawing.lines_text {d : Drawing} (h : 0 < d.rows) :
    Text.pieces (· == '\n') d.text.toList = d.lines := by
  have hchars : d.text.toList = ['\n'].intercalate d.lines := by
    rw [Drawing.text, String.toList_intercalate, List.map_map]
    exact congrArg _ ((List.map_congr_left fun _ _ => String.toList_ofList).trans (List.map_id _))
  have hne : d.lines ≠ [] := by
    intro hnil
    have hlength := length_picture d.rows d.columns d.charAt
    rw [← Drawing.lines_eq, hnil] at hlength
    exact Nat.ne_of_lt h hlength
  rw [hchars]
  refine pieces_intercalate hne fun line hline hmem => ?_
  obtain ⟨r, -, rfl⟩ := List.mem_map.mp hline
  obtain ⟨c, -, hc⟩ := List.mem_map.mp hmem
  exact d.charAt_ne_newline r c hc

end

end AlgebraDesk.Plot
