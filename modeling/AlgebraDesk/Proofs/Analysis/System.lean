import AlgebraDesk.Proofs.Analysis.Printed
import AlgebraDesk.Proofs.Analysis.Sides
import AlgebraDesk.Proofs.Double.Order
import AlgebraDesk.Proofs.Text.Keyword
import AlgebraDesk.Proofs.Text.Lines

/-!
# Systems of two lines

Two lines with an equality sign in one of them are a system, whatever blank lines stand around and
between them.  Both lines are solved on their own, and what is reported depends on the two solutions
alone: the same point, two points, or nothing that could be solved.  So the order of the lines
decides no more than which of two solutions that agree is reported.

* `solveLinear?_trim`         blanks at the ends of a line;
* `Layout`                    where two lines stand;
* `Layout.inkedLines_text`, `Layout.ofTrimmed_text`   the lines and the category of such a text;
* `Outcome`, `outcomeOf`      what is reported, and which solutions it comes from;
* `analyze_text`, `outcome?_analyze`   the analysis of such a text;
* `outcomeOf_swap`            the order of the lines;
* `analyze_system`            all of this about two lines.
-/

namespace AlgebraDesk

open AlgebraDesk.Polynomial (extract?)

/-! ## one line -/

theorem equationSides?_removeBlanks (text : List Char) : equationSides? (Text.removeBlanks text)
    = (equationSides? text).map fun (left, right) =>
        (Text.removeBlanks left, Text.removeBlanks right) := by
  have hcut : ∀ c : Char, (c == '=') = true → Text.isBlank c = false := by
    intro c hc
    rw [beq_iff_eq.mp hc]
    decide
  unfold equationSides?
  rw [Text.pieces_removeBlanks hcut]
  match Text.pieces (· == '=') text with
  | [] => rfl
  | [_] => rfl
  | [left, right] => rfl
  | _ :: _ :: _ :: _ => rfl

theorem equationPolynomial?_removeBlanks (text : List Char) :
    equationPolynomial? (Text.removeBlanks text) = equationPolynomial? text := by
  have hextract : ∀ side, extract? (Text.removeBlanks side) = extract? side :=
    fun side => Polynomial.extract?_of_removeBlanks (List.filter_filter.trans (by simp; rfl))
  unfold equationPolynomial?
  rw [equationSides?_removeBlanks]
  cases equationSides? text with
  | none => rfl
  | some sides =>
    obtain ⟨left, right⟩ := sides
    show (extract? (Text.removeBlanks left) >>= fun p => extract? (Text.removeBlanks right) >>= _)
      = (extract? left >>= fun p => extract? right >>= _)
    rw [hextract, hextract]

theorem solveLinear?_trim (text : List Char) : solveLinear? (Text.trim text) = solveLinear? text := by
  unfold solveLinear?
  rw [← equationPolynomial?_removeBlanks, Text.removeBlanks_trim, equationPolynomial?_removeBlanks]

namespace Analysis

open Text (IsBlankText IsLine hasInk inkedLines)

/-! ## two lines -/

/-- The blank lines before, between and after two lines. -/
structure Layout where
  before : List (List Char)
  between : List (List Char)
  after : List (List Char)
  blank_before : ∀ line ∈ before, IsBlankText line
  blank_between : ∀ line ∈ between, IsBlankText line
  blank_after : ∀ line ∈ after, IsBlankText line

namespace Layout

def text (w : Layout) (upper lower : List Char) : List Char :=
  ['\n'].intercalate (w.before ++ upper :: (w.between ++ lower :: w.after))

variable (w : Layout) {upper lower : List Char}

theorem flatMap_blank {lines : List (List Char)} (h : ∀ line ∈ lines, IsBlankText line) :
    lines.flatMap inkedLines = [] := by
  rw [List.flatMap_eq_nil_iff]
  exact fun line hline => Text.inkedLines_blank (h line hline)

/-- **Blank lines do not count.** -/
theorem inkedLines_text (hupper : IsLine upper) (hlower : IsLine lower) :
    inkedLines (w.text upper lower) = [Text.trim upper, Text.trim lower] := by
  unfold text
  rw [Text.inkedLines_intercalate]
  simp only [List.flatMap_append, List.flatMap_cons, flatMap_blank w.blank_before,
    flatMap_blank w.blank_between, flatMap_blank w.blank_after, Text.inkedLines_line hupper,
    Text.inkedLines_line hlower]
  rfl

theorem exists_text (upper lower : List Char) (hupper : IsLine upper) (hlower : IsLine lower) :
    ∃ cs ds, w.text upper lower = cs ++ '\n' :: ds ∧ hasInk cs = true ∧ hasInk ds = true := by
  refine ⟨['\n'].intercalate (w.before ++ [upper]),
    ['\n'].intercalate (w.between ++ lower :: w.after), ?_, ?_, ?_⟩
  · unfold text
    rw [List.append_cons, intercalate_append _ (by simp) (by simp)]
    rfl
  · refine Text.hasInk_of_inkedLines ?_
    rw [Text.inkedLines_intercalate, List.flatMap_append, flatMap_blank w.blank_before,
      List.flatMap_singleton, Text.inkedLines_line hupper]
    exact List.cons_ne_nil _ _
  · refine Text.hasInk_of_inkedLines ?_
    rw [Text.inkedLines_intercalate, List.flatMap_append, flatMap_blank w.blank_between,
      List.flatMap_cons, Text.inkedLines_line hlower]
    exact List.cons_ne_nil _ _

/-- **Two lines with an equality sign are a system.** -/
theorem ofTrimmed_text (hupper : IsLine upper) (hlower : IsLine lower)
    (hequality : '=' ∈ upper ∨ '=' ∈ lower) :
    Category.ofTrimmed (Text.trim (w.text upper lower)) = .system := by
  have hline : '\n' ∈ Text.trim (w.text upper lower) := by
    obtain ⟨cs, ds, htext, hcs, hds⟩ := w.exists_text upper lower hupper hlower
    rw [htext]
    exact Text.mem_trim_between hcs hds '\n'
  have hsign : '=' ∈ Text.trim (w.text upper lower) := by
    rw [Text.mem_trim (by decide)]
    unfold text
    rcases hequality with h | h
    · exact mem_intercalate (by simp) h
    · exact mem_intercalate (by simp) h
  refine Category.ofTrimmed_system ?_ (List.contains_iff_mem.mpr hline)
    (List.contains_iff_mem.mpr hsign)
  exact List.isEmpty_eq_false_iff.mpr (List.ne_nil_of_mem hline)

end Layout

/-! ## what is reported -/

/-- The two solutions are taken for the same point. -/
def Agree (x x' : Float) : Prop := (x - x').abs < systemTolerance

instance (x x' : Float) : Decidable (Agree x x') := inferInstanceAs (Decidable (_ < _))

/-- What is reported about a system. -/
inductive Outcome where
  | common | apart | unsolved
  deriving DecidableEq, Repr

/-- None for an analysis that is not one of a system. -/
def outcome? : Analysis → Option Outcome
  | .system .. => some .common
  | .remark .system _ summary =>
    if summary = "The two equations have no common solution." then some .apart
    else if summary = "Provide two linear equations (single variable x)." then some .unsolved
    else none
  | _ => none

/-- The solutions of two lines that can both be solved. -/
def solutions? (upper lower : List Char) : Option (Float × Float) := do
  some (← solveLinear? upper, ← solveLinear? lower)

def outcomeOf : Option (Float × Float) → Outcome
  | some (x, x') => if Agree x x' then .common else .apart
  | none => .unsolved

section
variable {places : Int} {text upper lower : List Char} {x x' : Float}

theorem solutions?_eq_some : solutions? upper lower = some (x, x') ↔
    solveLinear? upper = some x ∧ solveLinear? lower = some x' := by
  unfold solutions?
  cases solveLinear? upper <;> cases solveLinear? lower <;> simp

theorem solutions?_eq_none : solutions? upper lower = none ↔
    solveLinear? upper = none ∨ solveLinear? lower = none := by
  unfold solutions?
  cases solveLinear? upper <;> cases solveLinear? lower <;> simp

theorem outcome?_ofSystem (places : Int) (text : List Char) :
    outcome? (ofSystem places text) = some (outcomeOf (systemSolutions? text)) := by
  unfold ofSystem
  match systemSolutions? text with
  | none =>
    unfold outcome? outcomeOf
    simp
  | some (x, x') =>
    show outcome? (if Agree x x' then _ else _) = some (if Agree x x' then _ else _)
    by_cases hagree : Agree x x'
    · rw [if_pos hagree, if_pos hagree]
      rfl
    · rw [if_neg hagree, if_neg hagree]
      simp [outcome?]

theorem intersections_ofSystem (h : systemSolutions? text = some (x, x')) (hagree : Agree x x') :
    (ofSystem places text).keyPoints.intersections = [⟨x, 0⟩] := by
  unfold ofSystem
  rw [h]
  show (if Agree x x' then _ else _ : Analysis).keyPoints.intersections = _
  rw [if_pos hagree]
  rfl

theorem outcomeOf_eq_common {o : Option (Float × Float)} :
    outcomeOf o = .common ↔ ∃ x x', o = some (x, x') ∧ Agree x x' := by
  match o with
  | none => simp [outcomeOf]
  | some (x, x') => simp [outcomeOf]

theorem outcomeOf_eq_apart {o : Option (Float × Float)} :
    outcomeOf o = .apart ↔ ∃ x x', o = some (x, x') ∧ ¬ Agree x x' := by
  match o with
  | none => simp [outcomeOf]
  | some (x, x') => simp [outcomeOf]

theorem outcomeOf_eq_unsolved {o : Option (Float × Float)} :
    outcomeOf o = .unsolved ↔ o = none := by
  match o with
  | none => simp [outcomeOf]
  | some (x, x') =>
    unfold outcomeOf
    simp [ite_eq_iff]

/-! ## the order of the lines -/

theorem Agree.swap (h : Agree x x') : Agree x' x := by
  unfold Agree at h ⊢
  rwa [Double.distance_swap]

/-- Solutions that agree are closer than the tolerance before their difference is rounded. -/
theorem Agree.rational_lt (h : Agree x x') :
    |Double.rational x - Double.rational x'| < Double.rational systemTolerance :=
  Double.rational_distance_lt (by decide) h

theorem outcomeOf_swap (upper lower : List Char) :
    outcomeOf (solutions? lower upper) = outcomeOf (solutions? upper lower) := by
  match hsolved : solutions? upper lower with
  | none =>
    rw [solutions?_eq_none] at hsolved
    rw [solutions?_eq_none.mpr hsolved.symm]
  | some (x, x') =>
    rw [solutions?_eq_some] at hsolved
    rw [solutions?_eq_some.mpr ⟨hsolved.2, hsolved.1⟩]
    have hagree : Agree x' x ↔ Agree x x' := ⟨Agree.swap, Agree.swap⟩
    unfold outcomeOf
    simp only [hagree]

/-! ## the analysis -/

variable (w : Layout) (hupper : IsLine upper) (hlower : IsLine lower)
  (hequality : '=' ∈ upper ∨ '=' ∈ lower)
include hupper hlower

theorem systemSolutions?_text :
    systemSolutions? (Text.trim (w.text upper lower)) = solutions? upper lower := by
  unfold systemSolutions? solutions?
  rw [Text.inkedLines_trim, w.inkedLines_text hupper hlower]
  dsimp only
  rw [solveLinear?_trim, solveLinear?_trim]

include hequality

theorem analyze_text :
    analyze places (w.text upper lower) = ofSystem places (Text.trim (w.text upper lower)) :=
  analyze_of_ofTrimmed (by decide) (w.ofTrimmed_text hupper hlower hequality)

theorem outcome?_analyze : outcome? (analyze places (w.text upper lower))
    = some (outcomeOf (solutions? upper lower)) := by
  rw [analyze_text w hupper hlower hequality, outcome?_ofSystem,
    systemSolutions?_text w hupper hlower]

theorem intersections_analyze (hsolved : solutions? upper lower = some (x, x'))
    (hagree : Agree x x') :
    (analyze places (w.text upper lower)).keyPoints.intersections = [⟨x, 0⟩] := by
  rw [analyze_text w hupper hlower hequality]
  exact intersections_ofSystem ((systemSolutions?_text w hupper hlower).trans hsolved) hagree

/-- **A system of two lines, and the same lines the other way round.** -/
theorem analyze_system (places : Int) (w w' : Layout) :
    (outcome? (analyze places (w.text upper lower)) = some .common ↔
      ∃ x x', solveLinear? upper = some x ∧ solveLinear? lower = some x' ∧ Agree x x') ∧
    (outcome? (analyze places (w.text upper lower)) = some .apart ↔
      ∃ x x', solveLinear? upper = some x ∧ solveLinear? lower = some x' ∧ ¬ Agree x x') ∧
    (outcome? (analyze places (w.text upper lower)) = some .unsolved ↔
      solveLinear? upper = none ∨ solveLinear? lower = none) ∧
    outcome? (analyze places (w'.text lower upper)) = outcome? (analyze places (w.text upper lower)) ∧
    ∀ x x', solveLinear? upper = some x → solveLinear? lower = some x' → Agree x x' →
      (analyze places (w.text upper lower)).keyPoints.intersections = [⟨x, 0⟩] ∧
      (analyze places (w'.text lower upper)).keyPoints.intersections = [⟨x', 0⟩] ∧
      |Double.rational x - Double.rational x'| < Double.rational systemTolerance := by
  -- both texts are told by the pair of solutions, whose order does not matter
  rw [outcome?_analyze w hupper hlower hequality, outcome?_analyze w' hlower hupper hequality.symm,
    outcomeOf_swap upper lower]
  simp only [Option.some.injEq, outcomeOf_eq_common, outcomeOf_eq_apart, outcomeOf_eq_unsolved,
    solutions?_eq_some, solutions?_eq_none, and_assoc, true_and]
  intro x x' hx hx' hagree
  exact ⟨intersections_analyze w hupper hlower hequality (solutions?_eq_some.mpr ⟨hx, hx'⟩) hagree,
    intersections_analyze w' hlower hupper hequality.symm (solutions?_eq_some.mpr ⟨hx', hx⟩)
      hagree.swap, hagree.rational_lt⟩

end

/-- a blank line first, and two between the lines -/
def spacedLayout : Layout :=
  ⟨[[' ']], [[], ['\t']], [], by decide, by decide, by decide⟩

def plainLayout : Layout := ⟨[], [], [], nofun, nofun, nofun⟩

/-- Of two solutions that agree the upper one is reported. -/
theorem analyze_system_near :
    outcome? (analyze 2 " \n10000000000x=1\n\n\t\nx=0".toList) = some .common ∧
      (analyze 2 " \n10000000000x=1\n\n\t\nx=0".toList).keyPoints.intersections
        = [⟨1 / 10000000000, 0⟩] ∧
      (analyze 2 "x=0\n10000000000x=1".toList).keyPoints.intersections = [⟨0, 0⟩] := by
  have hupper : IsLine "10000000000x=1".toList := by decide
  have hlower : IsLine "x=0".toList := by decide
  have hx : solveLinear? "10000000000x=1".toList = some (1 / 10000000000) := by decide +kernel
  have hx' : solveLinear? "x=0".toList = some 0 := by decide +kernel
  have hagree : Agree (1 / 10000000000) 0 := by decide +kernel
  obtain ⟨hcommon, -, -, -, hpoints⟩ :=
    analyze_system hupper hlower (.inl (by decide)) 2 spacedLayout plainLayout
  obtain ⟨hspaced, hplain, -⟩ := hpoints _ _ hx hx' hagree
  exact ⟨hcommon.mpr ⟨_, _, hx, hx', hagree⟩, hspaced, hplain⟩

end Analysis

end AlgebraDesk
