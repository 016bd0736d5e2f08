/-!
# Keywords in any letter case

* `sameLetter`     equality of a keyword's letter with a character of the text, whatever its case;
                   a dotless or dotted i stands for i;
* `dropKeyword?`   the rest of a text that begins with a keyword;
* `dropExactly?`   the same with the case respected.
-/

namespace AlgebraDesk.Text

/-- `k` is a letter of a keyword, in lower case. -/
def sameLetter (k c : Char) : Bool :=
  c.toLower == k || (k == 'i' && (c == 'ı' || c == 'İ'))

def dropKeyword? : List Char → List Char → Option (List Char)
  | [], cs => some cs
  | _ :: _, [] => none
  | k :: ks, c :: cs => if sameLetter k c then dropKeyword? ks cs else none

def dropExactly? : List Char → List Char → Option (List Char)
  | [], cs => some cs
  | _ :: _, [] => none
  | k :: ks, c :: cs => if k == c then dropExactly? ks cs else none

@[simp] theorem dropKeyword?_nil (cs : List Char) : dropKeyword? [] cs = some cs := by
  cases cs <;> rfl

@[simp] theorem dropExactly?_nil (cs : List Char) : dropExactly? [] cs = some cs := by
  cases cs <;> rfl

theorem dropExactly?_append (ks cs : List Char) : dropExactly? ks (ks ++ cs) = some cs := by
  induction ks with
  | nil => simp
  | cons k ks ih => simp [dropExactly?, ih]

/-- A text that holds `part` somewhere. -/
def holds (part : List Char) : List Char → Bool
  | [] => part.isEmpty
  | c :: cs => (dropExactly? part (c :: cs)).isSome || holds part cs

end AlgebraDesk.Text
