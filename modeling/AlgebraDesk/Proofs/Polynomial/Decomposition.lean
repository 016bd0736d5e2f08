import AlgebraDesk.Proofs.Analysis.Reading
import AlgebraDesk.Proofs.Polynomial.Splitting
import Mathlib.Logic.ExistsUnique

/-!
# The terms of a text

What the terms of a text are is said here without a way to find them.  A text has one decomposition
into terms at most; splitting finds it, and so does the walk over the positions of the text, which
keeps the place where the pending term begins.  There is none when the text is empty or one of its
signs is loose: another sign follows it, or nothing does.

* `IsDecomposition`   terms that make up a text;
* `splitTerms_eq_some_iff`, `IsDecomposition.unique`   they are the ones that splitting gives;
* `HasLooseSign`      a sign without a term behind it;
* `splitTerms_eq_none`   where splitting gives nothing;
* `splitTerms_decomposes`   all of it together.
-/

namespace AlgebraDesk.Polynomial

/-- Put together the terms are the text.  Every term but the first begins with a sign; behind the
first character of a term there is no sign, and no term is empty or a sign on its own. -/
structure IsDecomposition (cs : List Char) (ts : List (List Char)) : Prop where
  ne_nil : ts ≠ []
  flatten : ts.flatten = cs
  signed : ∀ t ∈ ts.tail, t.head? = some '+' ∨ t.head? = some '-'
  inside : ∀ t ∈ ts, ∀ c ∈ t.tail, c ≠ '+' ∧ c ≠ '-'
  full : ∀ t ∈ ts, t ≠ [] ∧ t ≠ ['+'] ∧ t ≠ ['-']

instance (cs : List Char) (ts : List (List Char)) : Decidable (IsDecomposition cs ts) :=
  -- the characters of a term are looked at, not all there are
  letI (t : List Char) : Decidable (∀ c ∈ t.tail, c ≠ '+' ∧ c ≠ '-') := List.decidableBAll _ _
  decidable_of_iff (ts ≠ [] ∧ ts.flatten = cs ∧
      (∀ t ∈ ts.tail, t.head? = some '+' ∨ t.head? = some '-') ∧
      (∀ t ∈ ts, ∀ c ∈ t.tail, c ≠ '+' ∧ c ≠ '-') ∧ ∀ t ∈ ts, t ≠ [] ∧ t ≠ ['+'] ∧ t ≠ ['-'])
    ⟨fun ⟨hne, hflat, hsigned, hinside, hfull⟩ => ⟨hne, hflat, hsigned, hinside, hfull⟩,
      fun h => ⟨h.ne_nil, h.flatten, h.signed, h.inside, h.full⟩⟩

example : IsDecomposition "-x+3".toList ["-x".toList, "+3".toList] := by decide

/-! ## terms and pieces -/

section
variable {c : Char} {t cs run later : List Char} {ts us : List (List Char)}

theorem isSigned_iff : IsSigned t ↔ t.head? = some '+' ∨ t.head? = some '-' := by
  cases t with
  | nil => simp [IsSigned]
  | cons c run => simp [IsSigned, isSign_iff]

theorem isBareSign_eq_false : isBareSign t = false ↔ t ≠ ['+'] ∧ t ≠ ['-'] := by
  rcases t with _ | ⟨c, _ | ⟨d, run⟩⟩
  · decide
  · simp [isBareSign, isSign_eq_false]
  · simp [isBareSign]

theorem isPiece_iff : IsPiece t ↔
    (t ≠ [] ∧ t ≠ ['+'] ∧ t ≠ ['-']) ∧ ∀ c ∈ t.tail, c ≠ '+' ∧ c ≠ '-' := by
  rw [← isBareSign_eq_false]
  simp only [← isSign_eq_false]
  exact ⟨fun h => ⟨⟨h.ne_nil, h.not_bare⟩, h.tail⟩, fun h => ⟨h.1.1, h.1.2, h.2⟩⟩

/-- The terms are pieces, and all but the first have a sign. -/
theorem isDecomposition_iff : IsDecomposition cs ts ↔ ∃ t us, ts = t :: us ∧
    cs = t ++ us.flatten ∧ IsPiece t ∧ ∀ u ∈ us, IsPiece u ∧ IsSigned u := by
  constructor
  · intro h
    obtain ⟨t, us, rfl⟩ := List.exists_cons_of_ne_nil h.ne_nil
    have hpiece : ∀ u ∈ t :: us, IsPiece u :=
      fun u hu => isPiece_iff.mpr ⟨h.full u hu, h.inside u hu⟩
    exact ⟨t, us, rfl, h.flatten.symm, hpiece t List.mem_cons_self, fun u hu =>
      ⟨hpiece u (List.mem_cons_of_mem t hu), isSigned_iff.mpr (h.signed u hu)⟩⟩
  · rintro ⟨t, us, rfl, rfl, ht, hus⟩
    have hpiece : ∀ u ∈ t :: us, IsPiece u :=
      List.forall_mem_cons.mpr ⟨ht, fun u hu => (hus u hu).1⟩
    exact {
      ne_nil := List.cons_ne_nil t us
      flatten := rfl
      signed := fun u hu => isSigned_iff.mp (hus u hu).2
      inside := fun u hu => (isPiece_iff.mp (hpiece u hu)).2
      full := fun u hu => (isPiece_iff.mp (hpiece u hu)).1 }

theorem splitTerms_eq_some_iff : splitTerms cs = some ts ↔ IsDecomposition cs ts :=
  splitTerms_eq_some.trans isDecomposition_iff.symm

theorem IsDecomposition.unique (h : IsDecomposition cs ts) (h' : IsDecomposition cs us) :
    ts = us := by
  have heq := splitTerms_eq_some_iff.mpr h
  rw [splitTerms_eq_some_iff.mpr h'] at heq
  exact (Option.some.inj heq).symm

/-! ## loose signs -/

/-- A sign that is followed by another sign or by nothing. -/
def HasLooseSign (cs : List Char) : Prop :=
  ∃ before sign after, cs = before ++ sign :: after ∧ isSign sign = true ∧
    ∀ c ∈ after.head?, isSign c = true

theorem not_hasLooseSign_nil : ¬ HasLooseSign [] := by
  rintro ⟨before, sign, after, h, -⟩
  exact List.append_ne_nil_of_right_ne_nil before (List.cons_ne_nil sign after) h.symm

theorem hasLooseSign_cons : HasLooseSign (c :: cs) ↔
    (isSign c = true ∧ ∀ d ∈ cs.head?, isSign d = true) ∨ HasLooseSign cs := by
  constructor
  · rintro ⟨before, sign, after, h, hloose⟩
    cases before with
    | nil =>
      obtain ⟨rfl, rfl⟩ := List.cons.inj h
      exact .inl hloose
    | cons d before =>
      obtain ⟨rfl, rfl⟩ := List.cons.inj h
      exact .inr ⟨before, sign, after, rfl, hloose⟩
  · rintro (hloose | ⟨before, sign, after, rfl, hloose⟩)
    · exact ⟨[], c, cs, rfl, hloose⟩
    · exact ⟨c :: before, sign, after, rfl, hloose⟩

/-- No sign of a run is loose, for there is none. -/
theorem hasLooseSign_append (hrun : ∀ d ∈ run, isSign d = false) (later : List Char) :
    HasLooseSign (run ++ later) ↔ HasLooseSign later := by
  induction run with
  | nil => rfl
  | cons d run ih =>
    rw [List.forall_mem_cons] at hrun
    rw [List.cons_append, hasLooseSign_cons, ih hrun.2, hrun.1]
    simp

/-- The first character is a loose sign when its run is empty. -/
theorem loose_iff_isBareSign (hrun : ∀ d ∈ run, isSign d = false)
    (hlater : later = [] ∨ IsSigned later) :
    (isSign c = true ∧ ∀ d ∈ (run ++ later).head?, isSign d = true) ↔
      isBareSign (c :: run) = true := by
  cases run with
  | nil =>
    have hhead : ∀ d ∈ later.head?, isSign d = true := by
      intro d hd
      rcases hlater with rfl | ⟨d', hd', hsign⟩
      · cases hd
      · rwa [Option.mem_unique hd hd']
    exact ⟨And.left, fun h => ⟨h, hhead⟩⟩
  | cons d run =>
    have hd : isSign d = false := hrun d List.mem_cons_self
    constructor
    · rintro ⟨-, hhead⟩
      rw [hhead d rfl] at hd
      cases hd
    · intro h
      cases h

/-- **Nothing is given for the empty text and for texts with a loose sign**, and for no others. -/
theorem splitTerms_eq_none : splitTerms cs = none ↔ cs = [] ∨ HasLooseSign cs := by
  induction cs using run_induction with
  | nil => simp [splitTerms]
  | run c run later hrun hlater ih =>
    rw [splitTerms_run hrun hlater, hasLooseSign_cons, loose_iff_isBareSign hrun hlater,
      hasLooseSign_append hrun]
    cases isBareSign (c :: run) with
    | true => simp
    | false =>
      by_cases hend : later = []
      · simp [hend, not_hasLooseSign_nil]
      · rw [if_neg Bool.false_ne_true, if_neg hend, Option.map_eq_none_iff, ih]
        simp [hend]

/-- **Splitting gives the terms of a text, and nothing where there are none.**  The terms of a text
are determined by it, and they are what the walk over its positions finds. -/
theorem splitTerms_decomposes (cs : List Char) :
    (∀ ts, splitTerms cs = some ts ↔ IsDecomposition cs ts) ∧
    ((∃ ts, IsDecomposition cs ts) ↔ ∃! ts, IsDecomposition cs ts) ∧
    (splitTerms cs = none ↔ ¬ ∃ ts, IsDecomposition cs ts) ∧
    (splitTerms cs = none ↔ cs = [] ∨ HasLooseSign cs) ∧
    Analysis.Checked.splitTerms cs = .ok (splitTerms cs) := by
  refine ⟨fun ts => splitTerms_eq_some_iff, ?_, ?_, splitTerms_eq_none,
    Analysis.Checked.splitTerms_eq cs⟩
  · constructor
    · rintro ⟨ts, h⟩
      exact ⟨ts, h, fun us h' => h'.unique h⟩
    · exact ExistsUnique.exists
  · rw [Option.eq_none_iff_forall_ne_some, not_exists]
    exact forall_congr' fun ts => not_congr splitTerms_eq_some_iff

end

end AlgebraDesk.Polynomial
