/-!
# Where a class of items ends

Much of the desk reads the longest beginning of a list that lies in a class and goes on with the
rest.  When the rest does not begin in the class, the two parts are what was put together.
-/

namespace AlgebraDesk

section
variable {α : Type} {p : α → Bool}

theorem ne_of_class {a b : α} (ha : p a = true) (hb : p b = false) : a ≠ b := by
  rintro rfl
  rw [hb] at ha
  exact Bool.false_ne_true ha

theorem takeWhile_append_stop {as bs : List α} (has : ∀ a ∈ as, p a = true)
    (hbs : ∀ b ∈ bs.head?, p b = false) : (as ++ bs).takeWhile p = as := by
  rw [List.takeWhile_append_of_pos has]
  cases bs with
  | nil => exact List.append_nil as
  | cons b bs =>
    rw [List.takeWhile_cons_of_neg (by rw [hbs b rfl]; exact Bool.false_ne_true), List.append_nil]

theorem dropWhile_append_stop {as bs : List α} (has : ∀ a ∈ as, p a = true)
    (hbs : ∀ b ∈ bs.head?, p b = false) : (as ++ bs).dropWhile p = bs := by
  rw [List.dropWhile_append_of_pos has]
  cases bs with
  | nil => rfl
  | cons b bs =>
    exact List.dropWhile_cons_of_neg (by rw [hbs b rfl]; exact Bool.false_ne_true)

theorem takeWhile_all {as : List α} (has : ∀ a ∈ as, p a = true) : as.takeWhile p = as := by
  have h : (as ++ []).takeWhile p = as := takeWhile_append_stop has nofun
  rwa [List.append_nil] at h

theorem dropWhile_all {as : List α} (has : ∀ a ∈ as, p a = true) : as.dropWhile p = [] := by
  have h : (as ++ []).dropWhile p = [] := dropWhile_append_stop has nofun
  rwa [List.append_nil] at h

/-- The rest does not begin in the class. -/
theorem head_dropWhile (p : α → Bool) (as : List α) :
    ∀ a ∈ (as.dropWhile p).head?, p a = false := by
  intro a ha
  have h := List.head?_dropWhile_not p as
  rw [Option.mem_def.mp ha] at h
  simpa using h

theorem intercalate_append (sep : List α) {as bs : List (List α)} (has : as ≠ []) (hbs : bs ≠ []) :
    sep.intercalate (as ++ bs) = sep.intercalate as ++ (sep ++ sep.intercalate bs) := by
  induction as with
  | nil => exact absurd rfl has
  | cons a as ih =>
    by_cases hrest : as = []
    · rw [hrest, List.singleton_append, List.intercalate_cons_of_ne_nil hbs,
        List.intercalate_singleton, List.append_assoc]
    · rw [List.cons_append,
        List.intercalate_cons_of_ne_nil (List.append_ne_nil_of_left_ne_nil hrest _), ih hrest,
        List.intercalate_cons_of_ne_nil hrest]
      simp only [List.append_assoc]

theorem mem_intercalate {sep as : List α} {bs : List (List α)} {a : α} (has : as ∈ bs)
    (ha : a ∈ as) : a ∈ sep.intercalate bs := by
  induction bs with
  | nil => cases has
  | cons b bs ih =>
    by_cases hrest : bs = []
    · rw [hrest, List.intercalate_singleton]
      rw [hrest, List.mem_singleton] at has
      exact has ▸ ha
    · rw [List.intercalate_cons_of_ne_nil hrest, List.append_assoc]
      rcases List.mem_cons.mp has with rfl | has
      · exact List.mem_append_left _ ha
      · exact List.mem_append_right _ (List.mem_append_right _ (ih has))

end

end AlgebraDesk
