import AlgebraDesk.Decimal.Numeral
import AlgebraDesk.Proofs.Lists

/-!
# Decimals that are written plainly

A text of digits with at most one point, and a sign in front or none, is read as the decimal
it spells: nothing in it is a blank, a low line, an exponent or a word.

* `real_plain`        the sign and the rest are read apart;
* `unsigned_whole`, `unsigned_point`   the decimal without a point and with one;
* `Spells`            a numeral and its decimal, and `Spells.real` what a numeral is read as.
-/

namespace AlgebraDesk.Decimal

open Text (digitValue? isBlank)

/-! ## digits -/

theorem digitValue?_ascii {c : Char} (h : c.isDigit = true) :
    digitValue? c = some (c.toNat - 48) := by
  have hc : c.toNat < 0x80 := Nat.lt_of_le_of_lt (Char.isDigit_iff_toNat.mp h).2 (by decide)
  unfold digitValue?
  rw [if_pos hc, if_pos h]

theorem isDigit_of_ascii {c : Char} (h : c.isDigit = true) : Text.isDigit c = true := by
  unfold Text.isDigit
  rw [digitValue?_ascii h]
  rfl

theorem isDigit_of_mem_singleton {c : Char} (h : Text.isDigit c = true) :
    ∀ d ∈ [c], Text.isDigit d = true := by
  intro d hd
  rwa [List.mem_singleton.mp hd]

/-- The code point of a digit lies in the row of a script. -/
theorem row_of_isDigit {c : Char} (h : Text.isDigit c = true) :
    (48 ≤ c.toNat ∧ c.toNat ≤ 57) ∨
      (0x80 ≤ c.toNat ∧ ∃ z ∈ Text.zeroDigits, z ≤ c.toNat ∧ c.toNat < z + 10) := by
  unfold Text.isDigit digitValue? at h
  split at h
  · split at h
    · rename_i hd
      exact .inl (Char.isDigit_iff_toNat.mp hd)
    · cases h
  · rename_i hc
    right
    refine ⟨Nat.not_lt.mp hc, ?_⟩
    rw [Option.isSome_map, List.find?_isSome] at h
    obtain ⟨z, hz, hr⟩ := h
    exact ⟨z, hz, by simpa using hr⟩

theorem isBlank_of_isDigit {c : Char} (h : Text.isDigit c = true) : isBlank c = false := by
  have apart : ∀ z ∈ 48 :: Text.zeroDigits, ∀ s ∈ Text.blankSpans, z + 10 ≤ s.1 ∨ s.2 < z := by
    decide
  have row : ∃ z ∈ 48 :: Text.zeroDigits, z ≤ c.toNat ∧ c.toNat < z + 10 := by
    rcases row_of_isDigit h with h | ⟨_, z, hz, hr⟩
    · exact ⟨48, List.mem_cons_self, by omega⟩
    · exact ⟨z, List.mem_cons_of_mem _ hz, hr⟩
  obtain ⟨z, hz, hr⟩ := row
  unfold isBlank Text.inSpans
  rw [List.any_eq_false]
  intro s hs
  have := apart z hz s hs
  simp
  omega

theorem toLower_of_isDigit {c : Char} (h : Text.isDigit c = true) : c.toLower = c := by
  have hc : ¬ ('A'.val ≤ c.val ∧ c.val ≤ 'Z'.val) := by
    intro hu
    have hA : 65 ≤ c.toNat := hu.1
    have hZ : c.toNat ≤ 90 := hu.2
    rcases row_of_isDigit h with h | h <;> omega
  unfold Char.toLower
  rw [dif_neg hc]

/-! ## plain text -/

theorem trimNumeral_plain {cs : List Char} (hb : ∀ c ∈ cs, isBlank c = false) :
    trimNumeral cs = cs := by
  have hdrop : ∀ ds : List Char, (∀ c ∈ ds, isBlank c = false) → ds.dropWhile isNumeralBlank = ds := by
    intro ds hds
    have hstop : ∀ c ∈ ds.head?, isNumeralBlank c = false := by
      intro c hc
      unfold isNumeralBlank
      rw [hds c (List.mem_of_mem_head? hc), Bool.false_and]
    have hdrop : ([] ++ ds).dropWhile isNumeralBlank = ds := dropWhile_append_stop nofun hstop
    exact hdrop
  unfold trimNumeral
  rw [hdrop cs hb, hdrop cs.reverse (fun c hc => hb c (List.mem_reverse.mp hc)),
    List.reverse_reverse]

theorem lowLinesFit_plain {cs : List Char} (hl : '_' ∉ cs) (afterDigit : Bool) :
    lowLinesFit afterDigit cs = true := by
  induction cs generalizing afterDigit with
  | nil => rfl
  | cons c cs ih =>
    have hc : c ≠ '_' := fun e => hl (e ▸ List.mem_cons_self)
    unfold lowLinesFit
    split
    · rfl
    · rename_i h
      exact absurd (List.cons.inj h).1 hc
    · rename_i h
      exact absurd (List.cons.inj h).1 hc
    · rename_i h
      cases h
      exact ih (fun h => hl (List.mem_cons_of_mem _ h)) _

theorem numeralChars_plain {cs : List Char} (hb : ∀ c ∈ cs, isBlank c = false) (hl : '_' ∉ cs) :
    numeralChars? cs = some cs := by
  have hkeep : cs.filter (· != '_') = cs := by
    rw [List.filter_eq_self]
    intro c hc
    simpa using fun e : c = '_' => hl (e ▸ hc)
  unfold numeralChars?
  simp only [trimNumeral_plain hb, lowLinesFit_plain hl, if_true, hkeep]

/-! ## the sign and the rest -/

/-- A digit or a point. -/
def isDecimalChar (c : Char) : Bool := Text.isDigit c || c == '.'

theorem isBlank_of_isDecimalChar {c : Char} (h : isDecimalChar c = true) : isBlank c = false := by
  rcases Bool.or_eq_true _ _ ▸ h with h | h
  · exact isBlank_of_isDigit h
  · rw [beq_iff_eq.mp h]
    decide

theorem toLower_of_isDecimalChar {c : Char} (h : isDecimalChar c = true) : c.toLower = c := by
  rcases Bool.or_eq_true _ _ ▸ h with h | h
  · exact toLower_of_isDigit h
  · rw [beq_iff_eq.mp h]
    decide

/-- No sign, or one of the two. -/
inductive IsSign : List Char → Prop where
  | none : IsSign []
  | plus : IsSign ['+']
  | minus : IsSign ['-']

section
variable {sign body : List Char}

theorem IsSign.mem (hs : IsSign sign) : ∀ c ∈ sign, c = '+' ∨ c = '-' := by
  cases hs with
  | none => exact nofun
  | plus => exact fun c hc => .inl (List.mem_singleton.mp hc)
  | minus => exact fun c hc => .inr (List.mem_singleton.mp hc)

theorem numeralChars_signed (hs : IsSign sign) (hbody : ∀ c ∈ body, isDecimalChar c = true) :
    numeralChars? (sign ++ body) = some (sign ++ body) := by
  apply numeralChars_plain
  · intro c hc
    rcases List.mem_append.mp hc with h | h
    · rcases hs.mem c h with rfl | rfl <;> decide
    · exact isBlank_of_isDecimalChar (hbody c h)
  · intro h
    rcases List.mem_append.mp h with h | h
    · rcases hs.mem _ h with h | h <;> exact absurd h (by decide)
    · exact ne_of_class (hbody _ h) (by decide) rfl

theorem splitSign_append (hs : IsSign sign) (hbody : ∀ c ∈ body.head?, c ≠ '+' ∧ c ≠ '-') :
    splitSign (sign ++ body) = (sign == ['-'], body) := by
  cases hs with
  | plus => rfl
  | minus => rfl
  | none =>
    show splitSign body = (false, body)
    unfold splitSign
    split
    · exact absurd rfl (hbody '+' rfl).1
    · exact absurd rfl (hbody '-' rfl).2
    · rfl

theorem splitSign_signed (hs : IsSign sign) (hbody : ∀ c ∈ body, isDecimalChar c = true) :
    splitSign (sign ++ body) = (sign == ['-'], body) := by
  refine splitSign_append hs fun c hc => ?_
  have hplain := hbody c (List.mem_of_mem_head? hc)
  exact ⟨ne_of_class hplain (by decide), ne_of_class hplain (by decide)⟩

theorem of_splitSign {cs : List Char} {negative : Bool} (h : splitSign cs = (negative, body)) :
    ∃ sign, IsSign sign ∧ cs = sign ++ body ∧ negative = (sign == ['-']) := by
  unfold splitSign at h
  split at h
  · cases h
    exact ⟨_, .plus, rfl, rfl⟩
  · cases h
    exact ⟨_, .minus, rfl, rfl⟩
  · cases h
    exact ⟨_, .none, rfl, rfl⟩

/-- A word that begins with a letter is not spelled. -/
theorem lower_ne_word (hbody : ∀ c ∈ body, isDecimalChar c = true) {d : Char} (ds : List Char)
    (hd : isDecimalChar d = false) :
    (String.ofList (body.map Char.toLower) == String.ofList (d :: ds)) = false := by
  rw [beq_eq_false_iff_ne]
  intro h
  have hmap : body.map Char.toLower = body := by
    rw [List.map_congr_left (fun c hc => toLower_of_isDecimalChar (hbody c hc)), List.map_id']
  have e : body = d :: ds := hmap ▸ String.ofList_injective h
  exact ne_of_class (hbody d (e ▸ List.mem_cons_self)) hd rfl

/-- **The sign and the rest are read apart** when the rest has digits and points only. -/
theorem real_plain (hs : IsSign sign) (hbody : ∀ c ∈ body, isDecimalChar c = true) :
    real? (sign ++ body) = (unsigned? body).map (·.toFloat (sign == ['-'])) := by
  have hinf : infinityWords.contains (String.ofList (body.map Char.toLower)) = false := by
    rw [infinityWords, List.contains_cons, List.contains_cons,
      lower_ne_word hbody (d := 'i') ['n', 'f'] (by decide),
      lower_ne_word hbody (d := 'i') ['n', 'f', 'i', 'n', 'i', 't', 'y'] (by decide)]
    rfl
  have hnan : (String.ofList (body.map Char.toLower) == "nan") = false :=
    lower_ne_word hbody (d := 'n') ['a', 'n'] (by decide)
  unfold real?
  rw [numeralChars_signed hs hbody]
  simp only [Option.bind_eq_bind, Option.bind_some, splitSign_signed hs hbody, hinf, hnan,
    Bool.false_eq_true, if_false]

end

/-! ## the decimal -/

theorem unsigned_whole {whole : List Char} (hne : whole ≠ [])
    (hw : ∀ c ∈ whole, Text.isDigit c = true) :
    unsigned? whole = some ⟨digitsValue whole, 0⟩ := by
  unfold unsigned? spanDigits
  rw [takeWhile_all hw, dropWhile_all hw]
  simp [hne, exponent?]

theorem unsigned_point {whole frac : List Char} (hw : ∀ c ∈ whole, Text.isDigit c = true)
    (hne : whole ≠ [] ∨ frac ≠ []) (hf : ∀ c ∈ frac, Text.isDigit c = true) :
    unsigned? (whole ++ '.' :: frac) = some ⟨digitsValue (whole ++ frac), -frac.length⟩ := by
  have hstop : ∀ c ∈ ('.' :: frac).head?, Text.isDigit c = false := by
    intro c hc
    cases hc
    decide
  have hempty : (whole.isEmpty && frac.isEmpty) = false := by
    rw [Bool.and_eq_false_iff]
    simpa using hne
  unfold unsigned? spanDigits
  rw [takeWhile_append_stop hw hstop, dropWhile_append_stop hw hstop]
  simp only [takeWhile_all hf, dropWhile_all hf, hempty]
  simp [exponent?]

/-! ## numerals -/

/-- The form `D+(.D*)?` or `.D+`, with the decimal that it spells. -/
inductive Spells : List Char → Digits → Prop where
  | whole {ws : List Char} (hne : ws ≠ []) (hw : ∀ c ∈ ws, Text.isDigit c = true) :
    Spells ws ⟨digitsValue ws, 0⟩
  | point {ws fs : List Char} (hne : ws ≠ [] ∨ fs ≠ []) (hw : ∀ c ∈ ws, Text.isDigit c = true)
    (hf : ∀ c ∈ fs, Text.isDigit c = true) :
    Spells (ws ++ '.' :: fs) ⟨digitsValue (ws ++ fs), -fs.length⟩

namespace Spells
variable {cs : List Char} {d : Digits}

theorem plain (h : Spells cs d) : ∀ c ∈ cs, isDecimalChar c = true := by
  have hdigit : ∀ {c}, Text.isDigit c = true → isDecimalChar c = true := by
    intro c hc
    unfold isDecimalChar
    rw [hc, Bool.true_or]
  intro c hc
  cases h with
  | whole hne hw => exact hdigit (hw c hc)
  | point hne hw hf =>
    rcases List.mem_append.mp hc with h | h
    · exact hdigit (hw c h)
    · rcases List.mem_cons.mp h with rfl | h
      · rfl
      · exact hdigit (hf c h)

theorem ne_nil (h : Spells cs d) : cs ≠ [] := by
  cases h with
  | whole hne hw => exact hne
  | point hne hw hf => simp

theorem unsigned (h : Spells cs d) : unsigned? cs = some d := by
  cases h with
  | whole hne hw => exact unsigned_whole hne hw
  | point hne hw hf => exact unsigned_point hw hne hf

/-- A text spells one decimal only. -/
theorem unique {d' : Digits} (h : Spells cs d) (h' : Spells cs d') : d = d' :=
  Option.some.inj (h.unsigned.symm.trans h'.unsigned)

/-- **A numeral with a sign is read as the double of its decimal.** -/
theorem real {sign : List Char} (hs : IsSign sign) (h : Spells cs d) :
    real? (sign ++ cs) = some (d.toFloat (sign == ['-'])) := by
  rw [real_plain hs h.plain, h.unsigned]
  rfl

end Spells

end AlgebraDesk.Decimal
