/-
Colour texts.

Colours are kept as they were written.  For comparing them, `rgb(…)` is taken without
blanks and a three-digit hexadecimal colour is spelled with six digits; a bare triple of
numbers given as a property value stands for an `rgb` colour.
-/
import CardTalk.Text.Blank
import CardTalk.Text.Case
import CardTalk.Text.Digit

namespace CardTalk.Color

open Text

/-- The form of a colour that is compared; any other text is its own. -/
def canonical (t : Text) : Text :=
  if ("rgb(" : Text).isPrefixOf t then withoutBlanks t
  else
    match t with
    | ['#', r, g, b] => ['#', r, r, g, g, b, b]
    | _ => t

/-- Whether the text is decimal digits and nothing else. -/
def isNumberText (t : Text) : Bool := !t.isEmpty && t.all isDecimal

/-- Whether the text is three numbers with commas between them, and blanks only after
the commas. -/
def isTriple (t : Text) : Bool :=
  match splitOn ',' t with
  | [r, g, b] => isNumberText r && isNumberText (trimStart g) && isNumberText (trimStart b)
  | _ => false

/-- A bare triple of numbers becomes an `rgb` colour; any other text stays. -/
def expandTriple (t : Text) : Text :=
  let trimmed := trim t
  if isTriple trimmed then ("rgb(" : Text) ++ trimmed ++ ")" else t

/-- The value of a hexadecimal digit. -/
def hexValue? (c : Char) : Option Nat :=
  if c.isDigit then some (c.toNat - '0'.toNat)
  else if 'a' ≤ c && c ≤ 'f' then some (c.toNat - 'a'.toNat + 10)
  else if 'A' ≤ c && c ≤ 'F' then some (c.toNat - 'A'.toNat + 10)
  else none

/-- The value of two hexadecimal digits. -/
def hexPair? (high low : Char) : Option Nat := do
  return 16 * (← hexValue? high) + (← hexValue? low)

/-- A channel of an `rgb` colour: one to three digits, at most 255. -/
def channel? (t : Text) : Option Nat :=
  let n := natOfDigits t
  if isNumberText t && t.length ≤ 3 && n ≤ 255 then some n else none

/-- The text between `rgb(` and the closing parenthesis. -/
def rgbArguments? (t : Text) : Option Text :=
  match t with
  | 'r' :: 'g' :: 'b' :: '(' :: rest =>
    match rest.reverse with
    | ')' :: inner => some inner.reverse
    | _ => none
  | _ => none

/-- The red, green and blue channels of a colour written in hexadecimal or as `rgb(…)`. -/
def channels? (t : Text) : Option (Nat × Nat × Nat) :=
  let color := canonical (lower (trim t))
  match color with
  | ['#', a, b, c, d, e, f] => do
    return (← hexPair? a b, ← hexPair? c d, ← hexPair? e f)
  | _ => do
    match splitOn ',' (← rgbArguments? color) with
    | [r, g, b] => return (← channel? r, ← channel? g, ← channel? b)
    | _ => none

end CardTalk.Color
