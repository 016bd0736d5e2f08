import AlgebraDesk.Proofs.Polynomial.Summand
import AlgebraDesk.Proofs.Result

/-!
# Extracting a polynomial

A text is extracted when, without its blanks and stars, it is a sum of written terms; the
coefficients are then the sums of the values in each degree, from the left and beginning with zero.
A sum that is not finite is refused as well.

* `IsSum`              terms with signs in front of all but the first, where there may be one;
* `valuesOf`, `sumOf`  the values in one degree, in the order of the terms, and their sum;
* `extract_of_sum`     what is extracted of a sum;
* `extract?_iff_sum`   nothing else is extracted.
-/

namespace AlgebraDesk.Polynomial

open Decimal (IsSign Spells real?)

/-- Terms with fitting signs. -/
def IsSum (ts : List Summand) : Prop := SignsFit (ts.map Summand.sign)

/-- The values of the terms of one degree, in order of appearance. -/
def valuesOf (degree : Nat) (ts : List Summand) : List Float :=
  (ts.filter (·.degree == degree)).map Summand.value

/-- Their sum from the left, beginning with zero. -/
def sumOf (degree : Nat) (ts : List Summand) : Float := (valuesOf degree ts).foldl (· + ·) 0

def sums (ts : List Summand) : Polynomial := ⟨sumOf 2 ts, sumOf 1 ts, sumOf 0 ts⟩

/-! ## the terms one after the other -/

section
variable {t : Summand} {ts : List Summand} {degree : Nat}

/-- A term counts in its degree only. -/
theorem foldl_valuesOf_cons (x : Float) : (valuesOf degree (t :: ts)).foldl (· + ·) x
    = (valuesOf degree ts).foldl (· + ·) (if t.degree = degree then x + t.value else x) := by
  unfold valuesOf
  by_cases h : t.degree = degree
  · rw [List.filter_cons, if_pos (beq_iff_eq.mpr h), if_pos h]
    rfl
  · rw [List.filter_cons, if_neg (by rwa [beq_iff_eq]), if_neg h]

theorem degree_cases (t : Summand) : t.degree = 0 ∨ t.degree = 1 ∨ t.degree = 2 := by
  have h := t.marked
  generalize t.mark = mark at h
  generalize t.degree = degree at *
  cases h with
  | constant => exact .inl rfl
  | simple => exact .inr (.inl rfl)
  | first => exact .inr (.inl rfl)
  | second => exact .inr (.inr rfl)

/-- **Each term goes to the sum of its degree** and to no other. -/
theorem foldlM_addTerm (p : Polynomial) (ts : List Summand) :
    (ts.map Summand.chars).foldlM addTerm p
      = .ok ⟨(valuesOf 2 ts).foldl (· + ·) p.a, (valuesOf 1 ts).foldl (· + ·) p.b,
          (valuesOf 0 ts).foldl (· + ·) p.c⟩ := by
  induction ts generalizing p with
  | nil => rfl
  | cons t ts ih =>
    rw [List.map_cons, List.foldlM_cons, addTerm_chars]
    show (ts.map Summand.chars).foldlM addTerm (p.plus t.degree t.value) = _
    rw [ih, foldl_valuesOf_cons, foldl_valuesOf_cons, foldl_valuesOf_cons]
    rcases degree_cases t with h | h | h <;> rw [h] <;> rfl

theorem exists_summands {p q : Polynomial} {pieces : List (List Char)}
    (h : pieces.foldlM addTerm p = .ok q) : ∃ ts : List Summand, ts.map Summand.chars = pieces := by
  induction pieces generalizing p with
  | nil => exact ⟨[], rfl⟩
  | cons piece pieces ih =>
    rw [List.foldlM_cons] at h
    obtain ⟨p', hadd, hrest⟩ := bind_eq_ok.mp h
    obtain ⟨t, ht⟩ := exists_summand hadd
    obtain ⟨ts, hts⟩ := ih hrest
    exact ⟨t :: ts, by rw [List.map_cons, ht, hts]⟩

theorem splitTerms_spelled (h : IsSum ts) :
    splitTerms (ts.flatMap Summand.chars) = some (ts.map Summand.chars) :=
  splitTerms_signed (fun t => ⟨t.signed, t.body_ne_nil, t.body_not_sign⟩) h

end

/-! ## the whole text -/

section
variable {text : List Char} {ts : List Summand} {p : Polynomial}

theorem extract_of_sum (h : IsSum ts) (htext : normalize text = ts.flatMap Summand.chars) :
    extract text = if (sums ts).isFinite then .ok (sums ts) else .error .notFinite := by
  unfold extract
  rw [htext, splitTerms_spelled h]
  simp only [foldlM_addTerm]
  rfl

theorem exists_sum {pieces : List (List Char)} {q : Polynomial}
    (hsplit : splitTerms (normalize text) = some pieces) (hadd : pieces.foldlM addTerm p = .ok q) :
    ∃ ts, IsSum ts ∧ normalize text = ts.flatMap Summand.chars := by
  obtain ⟨ts, rfl⟩ := exists_summands hadd
  obtain ⟨piece, pieces, hcons, htext, _, hsigned⟩ := of_splitTerms hsplit
  cases ts with
  | nil => cases hcons
  | cons t us =>
    obtain ⟨rfl, rfl⟩ := List.cons.inj hcons
    refine ⟨t :: us, List.forall_mem_map.mpr fun u hu => ?_, ?_⟩
    · exact u.isSigned_chars.mp (hsigned u.chars (List.mem_map_of_mem hu)).2
    · rw [htext, List.flatMap_cons, List.flatMap_def]

theorem extract?_eq_some : extract? text = some p ↔
    ∃ ts, IsSum ts ∧ normalize text = ts.flatMap Summand.chars ∧ p = sums ts ∧
      p.isFinite = true := by
  constructor
  · intro h
    have hsum : ∃ ts, IsSum ts ∧ normalize text = ts.flatMap Summand.chars := by
      unfold extract? extract at h
      split at h
      · cases h
      · rename_i pieces hsplit
        cases hadd : pieces.foldlM addTerm zero with
        | error e =>
          rw [hadd] at h
          cases h
        | ok q => exact exists_sum hsplit hadd
    obtain ⟨ts, hts, htext⟩ := hsum
    refine ⟨ts, hts, htext, ?_⟩
    unfold extract? at h
    rw [extract_of_sum hts htext] at h
    split at h
    · rename_i hfinite
      cases h
      exact ⟨rfl, hfinite⟩
    · cases h
  · rintro ⟨ts, hts, htext, rfl, hfinite⟩
    unfold extract?
    rw [extract_of_sum hts htext, if_pos hfinite]
    rfl

/-- The pieces of a sum are told apart in one way only. -/
theorem chars_unique {ts' : List Summand} (h : IsSum ts) (h' : IsSum ts')
    (htext : ts.flatMap Summand.chars = ts'.flatMap Summand.chars) :
    ts.map Summand.chars = ts'.map Summand.chars := by
  have hsplit := splitTerms_spelled h
  rw [htext, splitTerms_spelled h'] at hsplit
  exact (Option.some.inj hsplit).symm

theorem extract?_congr {text' : List Char} {ts' : List Summand} (h : IsSum ts) (h' : IsSum ts')
    (htext : normalize text = ts.flatMap Summand.chars)
    (htext' : normalize text' = ts'.flatMap Summand.chars)
    (hvalues : ∀ degree, valuesOf degree ts = valuesOf degree ts') :
    extract? text = extract? text' := by
  have hsums : sums ts = sums ts' := by
    unfold sums sumOf
    rw [hvalues, hvalues, hvalues]
  unfold extract?
  rw [extract_of_sum h htext, extract_of_sum h' htext', hsums]

theorem normalize_eq (text : List Char) : normalize text
    = (text.filter fun c => !Text.isBlank c && c != '*').map
        (fun c => if c == 'X' then 'x' else c) := by
  have hfilter : (Text.removeBlanks text).filter (· != '*')
      = text.filter fun c => !Text.isBlank c && c != '*' := by
    unfold Text.removeBlanks
    rw [List.filter_filter]
    exact List.filter_congr fun c _ => Bool.and_comm _ _
  unfold normalize
  rw [hfilter]

/-- **Just the sums of written terms are extracted**, and each coefficient is the sum of the values
of its own terms, in order of appearance and beginning with zero.  The value of a term is what its
signed numeral is read as; a text is made of its terms in one way only, and how terms of different
degrees are mixed makes no difference. -/
theorem extract?_iff_sum (text : List Char) (p : Polynomial) :
    (extract? text = some p ↔ ∃ ts, IsSum ts ∧
      ts.flatMap Summand.chars = (text.filter fun c => !Text.isBlank c && c != '*').map
        (fun c => if c == 'X' then 'x' else c) ∧
      p = ⟨sumOf 2 ts, sumOf 1 ts, sumOf 0 ts⟩ ∧ p.isFinite = true) ∧
    (∀ t : Summand, real? t.coefficientChars = some t.value) ∧
    (∀ ts ts' : List Summand, IsSum ts → IsSum ts' →
      ts.flatMap Summand.chars = ts'.flatMap Summand.chars →
        ts.map Summand.chars = ts'.map Summand.chars) ∧
    ∀ (text' : List Char) (ts ts' : List Summand), IsSum ts → IsSum ts' →
      normalize text = ts.flatMap Summand.chars → normalize text' = ts'.flatMap Summand.chars →
      (∀ degree, valuesOf degree ts = valuesOf degree ts') → extract? text = extract? text' := by
  refine ⟨?_, Summand.real_value, fun _ _ => chars_unique,
    fun _ _ _ h h' htext htext' => extract?_congr h h' htext htext'⟩
  rw [extract?_eq_some, normalize_eq]
  constructor
  · rintro ⟨ts, hts, htext, hp, hfinite⟩
    exact ⟨ts, hts, htext.symm, hp, hfinite⟩
  · rintro ⟨ts, hts, htext, hp, hfinite⟩
    exact ⟨ts, hts, htext.symm, hp, hfinite⟩

example : (extract? ['4', '-', 'X', '^', '2', ' ', '+', '2', '*', 'x', '^', '2']).map
    (fun p => (p.a, p.b, p.c)) = some (1, 0, 4) := by decide +kernel

end

end AlgebraDesk.Polynomial
