import AlgebraDesk.Polynomial.Term
import AlgebraDesk.Proofs.Decimal.Numeral
import AlgebraDesk.Proofs.Lists
import Mathlib.Data.List.Basic
import Mathlib.Data.List.TakeWhile

/-!
# Splitting at the signs

A text is cut in front of every sign except one that it begins with.  The pieces put together are
the text; none of them is empty or a sign on its own, and a sign stands only at the beginning of a
piece.  No other list of pieces has these properties.

* `IsPiece`              what a cut can leave;
* `run_induction`, `splitTerms_run`   a character with the run behind it, then what follows;
* `splitTerms_eq_some`   the lists of pieces that splitting gives;
* `SignsFit`             signs in front of all terms but the first, where there may be one;
* `splitTerms_signed`    such terms put together are split again.
-/

namespace AlgebraDesk.Polynomial

/-- A character with no sign behind it, but not a sign on its own. -/
structure IsPiece (cs : List Char) : Prop where
  ne_nil : cs ≠ []
  not_bare : isBareSign cs = false
  tail : ∀ c ∈ cs.tail, isSign c = false

/-- The text begins with a sign. -/
def IsSigned (cs : List Char) : Prop := ∃ c ∈ cs.head?, isSign c = true

/-! ## one run after the other -/

section
variable {c : Char} {t cs run later : List Char} {ts : List (List Char)}

theorem isSign_iff : isSign c = true ↔ c = '+' ∨ c = '-' := by simp [isSign]

theorem isSign_eq_false : isSign c = false ↔ c ≠ '+' ∧ c ≠ '-' := by simp [isSign]

/-- Behind its first character a text goes on without a sign for a while, then with one. -/
theorem exists_run (cs : List Char) : ∃ run later, cs = run ++ later ∧
    (∀ d ∈ run, isSign d = false) ∧ (later = [] ∨ IsSigned later) := by
  refine ⟨cs.takeWhile (!isSign ·), cs.dropWhile (!isSign ·),
    List.takeWhile_append_dropWhile.symm, ?_, ?_⟩
  · intro d hd
    simpa using List.mem_takeWhile_imp hd
  · have hhead := head_dropWhile (!isSign ·) cs
    cases hlater : cs.dropWhile (!isSign ·) with
    | nil => exact .inl rfl
    | cons d more =>
      rw [hlater] at hhead
      exact .inr ⟨d, rfl, by simpa using hhead d rfl⟩

/-- **Induction over the runs of a text**: from what follows a character and the run behind it to
the whole. -/
@[elab_as_elim]
theorem run_induction {motive : List Char → Prop} (nil : motive [])
    (run : ∀ c run later, (∀ d ∈ run, isSign d = false) → (later = [] ∨ IsSigned later) →
      motive later → motive (c :: (run ++ later))) (cs : List Char) : motive cs := by
  induction hn : cs.length using Nat.strongRecOn generalizing cs with
  | ind n ih =>
    cases cs with
    | nil => exact nil
    | cons c rest =>
      obtain ⟨front, later, rfl, hrun, hlater⟩ := exists_run rest
      have hlt : later.length < n := by
        rw [← hn, List.length_cons, List.length_append]
        omega
      exact run c front later hrun hlater (ih later.length hlt later rfl)

theorem splitTerms_run (hrun : ∀ d ∈ run, isSign d = false) (hlater : later = [] ∨ IsSigned later) :
    splitTerms (c :: (run ++ later)) = if isBareSign (c :: run) then none
      else if later = [] then some [c :: run] else (splitTerms later).map ((c :: run) :: ·) := by
  have hplain : ∀ d ∈ run, (!isSign d) = true := by
    intro d hd
    rw [hrun d hd]
    rfl
  have hstop : ∀ d ∈ later.head?, (!isSign d) = false := by
    intro d hd
    rcases hlater with rfl | ⟨d', hd', hsign⟩
    · cases hd
    · rw [Option.mem_unique hd hd', hsign]
      rfl
  have htake := takeWhile_append_stop hplain hstop
  have hdrop := dropWhile_append_stop hplain hstop
  rw [splitTerms]
  simp only [htake]
  split
  · rfl
  · split
    · rename_i hend
      rw [if_pos (hdrop.symm.trans hend)]
    · rename_i d more hmore
      obtain rfl : later = d :: more := hdrop.symm.trans hmore
      rw [if_neg (List.cons_ne_nil d more)]

theorem splitTerms_piece (h : IsPiece t) (hcs : cs = [] ∨ IsSigned cs) :
    splitTerms (t ++ cs) = if cs = [] then some [t] else (splitTerms cs).map (t :: ·) := by
  cases t with
  | nil => exact absurd rfl h.ne_nil
  | cons c run =>
    have hrun : ∀ d ∈ run, isSign d = false := h.tail
    rw [List.cons_append, splitTerms_run hrun hcs, h.not_bare]
    rfl

theorem splitTerms_flatten (ht : IsPiece t) (hts : ∀ u ∈ ts, IsPiece u ∧ IsSigned u) :
    splitTerms (t ++ ts.flatten) = some (t :: ts) := by
  induction ts generalizing t with
  | nil =>
    rw [List.flatten_nil, splitTerms_piece ht (.inl rfl), if_pos rfl]
  | cons u us ih =>
    obtain ⟨hu, c, hc, hsign⟩ := hts u List.mem_cons_self
    have hsigned : IsSigned (u :: us).flatten := by
      refine ⟨c, ?_, hsign⟩
      rw [List.flatten_cons, List.head?_append_of_ne_nil _ hu.ne_nil]
      exact hc
    have hne : (u :: us).flatten ≠ [] := by
      rw [List.flatten_cons]
      exact List.append_ne_nil_of_left_ne_nil hu.ne_nil _
    rw [splitTerms_piece ht (.inr hsigned), if_neg hne, List.flatten_cons,
      ih hu fun v hv => hts v (List.mem_cons_of_mem u hv)]
    rfl

theorem of_splitTerms (h : splitTerms cs = some ts) : ∃ t us, ts = t :: us ∧ cs = t ++ us.flatten ∧
    IsPiece t ∧ ∀ u ∈ us, IsPiece u ∧ IsSigned u := by
  induction cs using run_induction generalizing ts with
  | nil => simp [splitTerms] at h
  | run c run later hrun hlater ih =>
    rw [splitTerms_run hrun hlater] at h
    split at h
    · cases h
    · rename_i hbare
      have hpiece : IsPiece (c :: run) :=
        ⟨List.cons_ne_nil c run, Bool.eq_false_iff.mpr hbare, hrun⟩
      split at h
      · rename_i hend
        cases h
        refine ⟨_, [], rfl, ?_, hpiece, List.forall_mem_nil _⟩
        rw [hend, List.flatten_nil, List.cons_append]
      · rename_i hmore
        obtain ⟨us, hus, rfl⟩ := Option.map_eq_some_iff.mp h
        obtain ⟨u, vs, rfl, rfl, hu, hvs⟩ := ih hus
        -- what is left begins with the sign that ended this piece
        have hsigned : IsSigned u := by
          obtain ⟨d, hd, hsign⟩ := hlater.resolve_left hmore
          rw [List.head?_append_of_ne_nil _ hu.ne_nil] at hd
          exact ⟨d, hd, hsign⟩
        exact ⟨_, u :: vs, rfl, rfl, hpiece, List.forall_mem_cons.mpr ⟨⟨hu, hsigned⟩, hvs⟩⟩

/-- **Splitting gives the one list of pieces that make up the text**, with signs in front of all but
the first, where there is one. -/
theorem splitTerms_eq_some : splitTerms cs = some ts ↔ ∃ t us, ts = t :: us ∧
    cs = t ++ us.flatten ∧ IsPiece t ∧ ∀ u ∈ us, IsPiece u ∧ IsSigned u := by
  constructor
  · exact of_splitTerms
  · rintro ⟨t, us, rfl, rfl, ht, hus⟩
    exact splitTerms_flatten ht hus

end

/-! ## signs and what follows them -/

/-- The signs of a sum: there is a term, and all but the first have one. -/
def SignsFit : List (List Char) → Prop
  | [] => False
  | _ :: signs => ∀ sign ∈ signs, sign ≠ []

section
variable {sign body : List Char}

theorem isPiece_signed (hs : Decimal.IsSign sign) (hne : body ≠ [])
    (hbody : ∀ c ∈ body, isSign c = false) : IsPiece (sign ++ body) := by
  obtain ⟨c, cs, rfl⟩ := List.exists_cons_of_ne_nil hne
  cases hs with
  | none =>
    refine ⟨List.cons_ne_nil _ _, ?_, fun d hd => hbody d (List.mem_cons_of_mem c hd)⟩
    cases cs with
    | nil => exact hbody c List.mem_cons_self
    | cons d ds => rfl
  | plus => exact ⟨List.cons_ne_nil _ _, rfl, hbody⟩
  | minus => exact ⟨List.cons_ne_nil _ _, rfl, hbody⟩

theorem isSigned_signed (hs : Decimal.IsSign sign) (hbody : ∀ c ∈ body, isSign c = false) :
    IsSigned (sign ++ body) ↔ sign ≠ [] := by
  cases hs with
  | none =>
    constructor
    · rintro ⟨c, hc, hsign⟩
      rw [hbody c (List.mem_of_mem_head? hc)] at hsign
      exact absurd hsign Bool.false_ne_true
    · exact fun h => absurd rfl h
  | plus => exact ⟨fun _ => List.cons_ne_nil _ _, fun _ => ⟨'+', rfl, rfl⟩⟩
  | minus => exact ⟨fun _ => List.cons_ne_nil _ _, fun _ => ⟨'-', rfl, rfl⟩⟩

theorem head_not_sign (hbody : ∀ c ∈ body, isSign c = false) :
    ∀ c ∈ body.head?, c ≠ '+' ∧ c ≠ '-' :=
  fun c hc => isSign_eq_false.mp (hbody c (List.mem_of_mem_head? hc))

/-- A sign and what follows it are told apart. -/
theorem signed_inj {sign' body' : List Char} (hs : Decimal.IsSign sign)
    (hs' : Decimal.IsSign sign') (hbody : ∀ c ∈ body, isSign c = false)
    (hbody' : ∀ c ∈ body', isSign c = false) (h : sign ++ body = sign' ++ body') :
    sign = sign' ∧ body = body' := by
  have hsplit := congrArg Decimal.splitSign h
  rw [Decimal.splitSign_append hs (head_not_sign hbody),
    Decimal.splitSign_append hs' (head_not_sign hbody')] at hsplit
  obtain ⟨_, rfl⟩ := Prod.mk.inj hsplit
  exact ⟨List.append_cancel_right h, rfl⟩

end

/-- **Terms with fitting signs are split again.** -/
theorem splitTerms_signed {α : Type} {sign body : α → List Char} {as : List α}
    (has : ∀ a, Decimal.IsSign (sign a) ∧ body a ≠ [] ∧ ∀ c ∈ body a, isSign c = false)
    (h : SignsFit (as.map sign)) :
    splitTerms (as.flatMap fun a => sign a ++ body a)
      = some (as.map fun a => sign a ++ body a) := by
  cases as with
  | nil => exact h.elim
  | cons a as =>
    rw [List.flatMap_cons, List.flatMap_def]
    obtain ⟨hs, hne, hbody⟩ := has a
    refine splitTerms_flatten (isPiece_signed hs hne hbody) fun cs hcs => ?_
    obtain ⟨b, hb, rfl⟩ := List.mem_map.mp hcs
    obtain ⟨hs, hne, hbody⟩ := has b
    exact ⟨isPiece_signed hs hne hbody,
      (isSigned_signed hs hbody).mpr (h _ (List.mem_map_of_mem hb))⟩

end AlgebraDesk.Polynomial
