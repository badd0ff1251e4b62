/-
Colour markup in console text.

A tag between braces names a style or gives a foreground or background colour.  Styling a
text replaces every tag that is known by the escape sequence for it; braces around
anything else are left as they are.  The same reading of the text into pieces serves for
styling it and for taking the tags out.
-/
import CardTalk.Color
import CardTalk.Text.Alphanumeric

namespace CardTalk.Markup

/-- The escape character, with which every escape sequence begins. -/
def escape : Char := '\x1b'

/-- The escape sequence with the given codes. -/
def sequence (codes : Text) : Text := escape :: '[' :: codes ++ "m"

/-- The named styles and their codes. -/
def styles : List (Text × Text) := [
  ("reset", "0"),
  ("black", "30"), ("red", "31"), ("green", "32"), ("yellow", "33"),
  ("blue", "34"), ("magenta", "35"), ("cyan", "36"), ("white", "37"),
  ("gray", "90"), ("bright_red", "91"), ("bright_green", "92"), ("bright_yellow", "93"),
  ("bold", "1"), ("dim", "2"), ("italic", "3"), ("underline", "4"), ("reverse", "7")]

/-- The escape sequence of a named style. -/
def named? (name : Text) : Option Text := (List.lookup name styles).map sequence

/-- The escape sequence for a colour; `layer` is the code for the foreground or the
background. -/
def colored (layer : Text) (c : Nat × Nat × Nat) : Text :=
  sequence (Text.joined ";" [layer, "2", Text.ofNat c.1, Text.ofNat c.2.1, Text.ofNat c.2.2])

/-- What a tag stands for, if it is known.  A foreground colour that cannot be read may be
a named style; any other colour that cannot be read stands for nothing. -/
def meaning? (tag : Text) : Option Text :=
  match named? tag with
  | some t => some t
  | none =>
    let color := tag.drop 3
    if tag.take 3 = ("fg:" : Text) then
      match Color.channels? color with
      | some c => some (colored "38" c)
      | none => some ((named? (Text.lower (Text.trim color))).getD [])
    else if tag.take 3 = ("bg:" : Text) then
      match Color.channels? color with
      | some c => some (colored "48" c)
      | none => some []
    else none

/-- Whether a text can stand between the braces of a tag. -/
def isTag (t : Text) : Bool :=
  (3 < t.length && (t.take 3 == ("fg:" : Text) || t.take 3 == ("bg:" : Text)))
    || (!t.isEmpty && t.all Text.isWord)

/-- The tag that a text begins with, when the brace before it has been read. -/
def tagAt? (t : Text) : Option Text :=
  let inner := t.takeWhile fun c => c != '\x7b' && c != '\x7d'
  if (t.drop inner.length).head? == some '\x7d' && isTag inner then some inner else none

/-- A piece of a text: a tag without its braces, or another character. -/
inductive Piece where
  | tag (inner : Text)
  | plain (c : Char)
  deriving DecidableEq, Repr

/-- The pieces of a text.  `skip` counts the characters that the last tag has taken. -/
def piecesFrom (skip : Nat) : Text → List Piece
  | [] => []
  | c :: rest =>
    match skip with
    | n + 1 => piecesFrom n rest
    | 0 =>
      match if c = '\x7b' then tagAt? rest else none with
      | some inner => .tag inner :: piecesFrom (inner.length + 1) rest
      | none => .plain c :: piecesFrom 0 rest

/-- The pieces of a text. -/
def pieces (t : Text) : List Piece := piecesFrom 0 t

/-- A tag as it is written. -/
def written (inner : Text) : Text := '\x7b' :: inner ++ ['\x7d']

/-- A piece with a known tag replaced by what it stands for. -/
def Piece.styled : Piece → Text
  | tag inner => (meaning? inner).getD (written inner)
  | plain c => [c]

/-- A piece with a known tag left out. -/
def Piece.bare : Piece → Text
  | tag inner => if (meaning? inner).isSome then [] else written inner
  | plain c => [c]

/-- The text with its known tags replaced by escape sequences. -/
def styled (t : Text) : Text := (pieces t).flatMap Piece.styled

/-- The text without its known tags. -/
def withoutTags (t : Text) : Text := (pieces t).flatMap Piece.bare

/-- Whether a character can be part of the codes of an escape sequence. -/
def isCode (c : Char) : Bool := c.isDigit || c == ';'

/-- How many characters of an escape sequence follow its escape character. -/
def sequenceLength? : Text → Option Nat
  | '[' :: rest =>
    let codes := rest.takeWhile isCode
    if (rest.drop codes.length).head? == some 'm' then some (codes.length + 2) else none
  | _ => none

/-- The text without its escape sequences.  `skip` counts the characters that the last
sequence has taken. -/
def withoutSequencesFrom (skip : Nat) : Text → Text
  | [] => []
  | c :: rest =>
    match skip with
    | n + 1 => withoutSequencesFrom n rest
    | 0 =>
      match if c = escape then sequenceLength? rest else none with
      | some n => withoutSequencesFrom n rest
      | none => c :: withoutSequencesFrom 0 rest

/-- The text without its escape sequences. -/
def withoutSequences (t : Text) : Text := withoutSequencesFrom 0 t

/-- A text between the tag of a style and the one that ends it. -/
def inStyle (tag t : Text) : Text := written tag ++ t ++ written "reset"

end CardTalk.Markup
