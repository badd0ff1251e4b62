/-
Splitting a statement at a keyword.

A keyword separates the parts of a statement where it stands between blanks, outside
quotes and outside parentheses; the first such place counts.
-/
import CardTalk.Quote
import CardTalk.Text.Search

namespace CardTalk.Separator

open Search

/-- The keyword with the blanks around it. -/
def form (keyword : Text) : Search Unit := do
  blanks1
  word keyword
  blanks1

/-- How many parentheses are open after `c`; one that closes nothing does not count. -/
def depthAfter (depth : Nat) (c : Char) : Nat :=
  if c = '(' then depth + 1 else if c = ')' then depth - 1 else depth

/-- The parts of a text before and after the first `keyword` that separates. -/
def split? (keyword : Text) (t : Text) : Option (Text × Text) := go none none 0 t
where
  /-- `current` is the open quote, `previous` the character before and `depth` the number
  of open parentheses. -/
  go (current previous : Option Char) (depth : Nat) : Text → Option (Text × Text)
    | [] => none
    | c :: rest =>
      let onward := fun depth : Nat =>
        (go (Quote.after current previous c) (some c) depth rest).map fun r => (c :: r.1, r.2)
      if Quote.covers current previous c then onward depth
      else if depth = 0 && Text.isBlank c then
        match (form keyword).rest? (c :: rest) with
        | some after => some ([], after)
        | none => onward depth
      else onward (depthAfter depth c)

end CardTalk.Separator
