/-
The quoted form of a text, as it stands in messages and in the description of an object.

Single quotes are used, unless the text has a single quote and no double one.  The
quote in use and the backslash are escaped, and so is every character that has no shape
of its own: tab, line feed and carriage return by a letter, the others by their code
point in two, four or eight hexadecimal digits.
-/
import CardTalk.Text.Printable

namespace CardTalk.Text

/-- The hexadecimal numeral of `n`, padded with zeros to `width` digits. -/
def hex (width n : Nat) : Text :=
  let digits := Nat.toDigits 16 n
  List.replicate (width - digits.length) '0' ++ digits

/-- How a character is written between quotes `quote`. -/
def escaped (quote c : Char) : Text :=
  if c = quote || c = '\\' then ['\\', c]
  else if c = '\t' then ['\\', 't']
  else if c = '\n' then ['\\', 'n']
  else if c = '\r' then ['\\', 'r']
  else if isPrintable c then [c]
  else if c.toNat ≤ 0xff then '\\' :: 'x' :: hex 2 c.toNat
  else if c.toNat ≤ 0xffff then '\\' :: 'u' :: hex 4 c.toNat
  else '\\' :: 'U' :: hex 8 c.toNat

/-- The text between quotes. -/
def quoted (t : Text) : Text :=
  let quote := if '\'' ∈ t && '"' ∉ t then '"' else '\''
  [quote] ++ t.flatMap (escaped quote) ++ [quote]

end CardTalk.Text
