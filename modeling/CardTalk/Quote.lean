/-
Quoted strings inside a line.

Comments, separating keywords and parentheses count only outside quotes, so every
scanner of a line follows the quotes in the same way: `Quote.after` says which quote is
open after one more character.  A double quote always opens a string; a single quote
opens one except inside a word, where it is an apostrophe.
-/
import CardTalk.Text.Alphanumeric
import CardTalk.Text.Blank

namespace CardTalk.Quote

/-- Whether `c` opens a string, when `previous` is the character before it. -/
def opens (previous : Option Char) (c : Char) : Bool :=
  c == '"' || (c == '\'' && !previous.any Text.isWord)

/-- The quote that is open after `c`, when `current` is open before it. -/
def after (current : Option Char) (previous : Option Char) (c : Char) : Option Char :=
  match current with
  | some q => if c = q then none else some q
  | none => if opens previous c then some c else none

/-- Whether `c` belongs to a string, its quotes included. -/
def covers (current : Option Char) (previous : Option Char) (c : Char) : Bool :=
  current.isSome || opens previous c

/-- For each character of a line, whether it belongs to a string. -/
def marks (t : Text) : List Bool := go none none t
where
  /-- `current` is the open quote and `previous` the character before. -/
  go (current previous : Option Char) : Text → List Bool
    | [] => []
    | c :: rest => covers current previous c :: go (after current previous c) (some c) rest

/-- Whether the character at position `i` opens a string; a negative position counts from
the end. -/
def opensAt (t : Text) (i : Int) : Bool :=
  let position := if i < 0 then t.length - i.natAbs else i.toNat
  match t[position]? with
  | some c => opens (if position = 0 then none else t[position - 1]?) c
  | none => false

/-- The text without one pair of equal quotes around it, after trimming. -/
def strip (t : Text) : Text :=
  let trimmed := Text.trim t
  match trimmed with
  | q :: rest =>
    if (q = '"' ∨ q = '\'') ∧ rest.getLast? = some q then rest.dropLast else trimmed
  | [] => trimmed

end CardTalk.Quote
