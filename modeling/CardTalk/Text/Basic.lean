/-
Text as the scripting language sees it.

A text is the list of its characters: scripts, names, field contents and every value of
the language are short, are read a character at a time, and are counted and sliced by
character.  This file holds the operations that have nothing to do with the language
itself; the character classes have files of their own.
-/
namespace CardTalk

/-- A text is the list of its characters. -/
abbrev Text := List Char

instance : Coe String Text := ⟨String.toList⟩

namespace Text

/-- The decimal numeral of a natural number. -/
def ofNat (n : Nat) : Text := Nat.toDigits 10 n

/-- The decimal numeral of an integer, with a minus sign when it is negative. -/
def ofInt : Int → Text
  | .ofNat n => ofNat n
  | .negSucc n => '-' :: ofNat (n + 1)

/-- Whether `c` lies in one of the closed ranges of code points. -/
def inRanges (ranges : List (Nat × Nat)) (c : Char) : Bool :=
  ranges.any fun r => r.1 ≤ c.toNat && c.toNat ≤ r.2

/-- Whether `part` occurs somewhere in `t`. -/
def contains (part t : Text) : Bool :=
  match t with
  | [] => part.isEmpty
  | c :: rest => part.isPrefixOf (c :: rest) || contains part rest

/-- The pieces of `t` between the occurrences of `separator`; there is always one more
piece than there are separators. -/
def splitOn (separator : Char) (t : Text) : List Text :=
  t.foldr (fun c pieces =>
    if c = separator then [] :: pieces
    else
      match pieces with
      | [] => [[c]]
      | piece :: others => (c :: piece) :: others) [[]]

/-- The texts one after another with `separator` between them. -/
def joined (separator : Text) (ts : List Text) : Text := separator.intercalate ts

end Text

end CardTalk
