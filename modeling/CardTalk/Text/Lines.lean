/-
Splitting a text into lines.

A line ends at a line feed, a carriage return, the two together, a vertical tab, a form
feed, one of the record separators, a next-line mark or one of the two dedicated line and
paragraph separators.  The end mark belongs to no line, and a text that ends with one has
no empty line after it.
-/
import CardTalk.Text.Basic

namespace CardTalk.Text

/-- The characters that end a line. -/
def isLineEnd (c : Char) : Bool :=
  let n := c.toNat
  (10 ≤ n && n ≤ 13) || (28 ≤ n && n ≤ 30) || n == 0x85 || n == 0x2028 || n == 0x2029

/-- The lines of a text, without their end marks. -/
def lines : Text → List Text
  | [] => []
  | '\r' :: '\n' :: rest => [] :: lines rest
  | c :: rest =>
    if isLineEnd c then [] :: lines rest
    else
      match lines rest with
      | [] => [[c]]
      | line :: more => (c :: line) :: more

end CardTalk.Text
