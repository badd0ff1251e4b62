/-
Blank characters, and trimming them off the ends of a text.

Blank are the separators of every script together with the control characters that
separate lines, pages and records.  Words, statements and operators are told apart by
blanks, and most values are read with the blanks around them trimmed off.
-/
import CardTalk.Text.Basic

namespace CardTalk.Text

/-- The blank characters. -/
def isBlank (c : Char) : Bool :=
  let n := c.toNat
  if n < 128 then n == 32 || (9 ≤ n && n ≤ 13) || (28 ≤ n && n ≤ 31)
  else n == 0x85 || n == 0xa0 || n == 0x1680 || (0x2000 ≤ n && n ≤ 0x200a)
    || n == 0x2028 || n == 0x2029 || n == 0x202f || n == 0x205f || n == 0x3000

/-- The text without the blanks it starts with. -/
def trimStart (t : Text) : Text := t.dropWhile isBlank

/-- The text without the blanks it ends with. -/
def trimEnd (t : Text) : Text := (t.reverse.dropWhile isBlank).reverse

/-- The text without the blanks at either end. -/
def trim (t : Text) : Text := trimEnd (trimStart t)

/-- Whether there is nothing but blanks. -/
def allBlank (t : Text) : Bool := t.all isBlank

/-- The text with its blanks left out. -/
def withoutBlanks (t : Text) : Text := t.filter (!isBlank ·)

/-- Every run of blanks becomes one `mark`. -/
def blankRunsTo (mark : Char) (t : Text) : Text := go false t
where
  /-- `inRun` says that the character before was blank, so its mark is already written. -/
  go (inRun : Bool) : Text → Text
    | [] => []
    | c :: rest =>
      if isBlank c then (if inRun then go true rest else mark :: go true rest)
      else c :: go false rest

end CardTalk.Text
