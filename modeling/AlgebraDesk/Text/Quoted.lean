import AlgebraDesk.Text.Printable

/-!
# Quoted texts

A text inside a list, a dictionary or a log line is shown between quotes.  Single quotes are used
unless the text holds one and holds no double quote.  The quote and the backslash are written with
a backslash before them, tab and line ends by letter, and what cannot be printed by code.

* `quoteOf`   the quote that a text gets;
* `escape`    one character between these quotes;
* `quoted`    the whole.
-/

namespace AlgebraDesk.Text

def hexDigit (n : Nat) : Char := "0123456789abcdef".toList.getD n '0'

/-- The `width` last hexadecimal digits of `n`. -/
def hex (width n : Nat) : List Char :=
  match width with
  | 0 => []
  | w + 1 => hex w (n / 16) ++ [hexDigit (n % 16)]

def quoteOf (cs : List Char) : Char :=
  if cs.contains '\'' && !cs.contains '"' then '"' else '\''

def escape (quote c : Char) : List Char :=
  if c == quote || c == '\\' then ['\\', c]
  else if c == '\t' then ['\\', 't']
  else if c == '\n' then ['\\', 'n']
  else if c == '\r' then ['\\', 'r']
  else if isPrintable c then [c]
  else if c.toNat < 0x100 then '\\' :: 'x' :: hex 2 c.toNat
  else if c.toNat < 0x10000 then '\\' :: 'u' :: hex 4 c.toNat
  else '\\' :: 'U' :: hex 8 c.toNat

def quotedChars (cs : List Char) : List Char :=
  let q := quoteOf cs
  q :: cs.flatMap (escape q) ++ [q]

def quoted (s : String) : String := String.ofList (quotedChars s.toList)

end AlgebraDesk.Text
