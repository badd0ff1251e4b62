/-
Identifiers for entities that are made without one.

An identifier is a word for what it names, a dash and a serial number in base 36.  The
serial number counts all identifiers handed out so far, whatever they name, so no two of
them have the same one.
-/
import CardTalk.Text.Basic

namespace CardTalk.Identifier

/-- The digit for a value below 36. -/
def digit (n : Nat) : Char :=
  if n < 10 then Char.ofNat ('0'.toNat + n) else Char.ofNat ('a'.toNat + (n - 10))

/-- The numeral of `n` in base 36; `fuel` of at least `n` is enough. -/
def numeralWith : Nat → Nat → Text
  | 0, n => [digit (n % 36)]
  | fuel + 1, n =>
    if n < 36 then [digit n] else numeralWith fuel (n / 36) ++ [digit (n % 36)]

/-- The numeral of `n` in base 36. -/
def numeral (n : Nat) : Text := numeralWith n n

/-- The identifier with a given serial number. -/
def make (word : Text) (serial : Nat) : Text := word ++ '-' :: numeral serial

/-- The identifiers handed out for the words, one after another, when `issued` have been
handed out before. -/
def issue (issued : Nat) : List Text → List Text
  | [] => []
  | word :: words => make word (issued + 1) :: issue (issued + 1) words

end CardTalk.Identifier
