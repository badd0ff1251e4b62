/-
Readers that have one way to read.

A `TextReader` reads a beginning of a text, if the text begins in the right way, and gives
what is left.  It is what notations are read with that never need a second try.
-/
import CardTalk.Text.Blank

namespace CardTalk

/-- What can be read at the start of a text, and the rest. -/
abbrev TextReader (α : Type) := Text → Option (α × Text)

namespace TextReader

/-- A given character, after blanks. -/
def symbol (c : Char) : TextReader Unit := fun t =>
  match Text.trimStart t with
  | d :: rest => if d = c then some ((), rest) else none
  | [] => none

/-- Nothing but blanks up to the end, behind what has been read. -/
def whole {α : Type} (r : α × Text) : Option α := if Text.allBlank r.2 then some r.1 else none

end TextReader

end CardTalk
