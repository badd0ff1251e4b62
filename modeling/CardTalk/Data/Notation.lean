/-
The notation of data in files.

Values are written as usual: `null`, `true`, `false`, numbers, texts between double
quotes, lists between brackets and mappings between braces.  A number with a point or an
exponent is a floating-point number.  Of two entries of a mapping with one name, the
later one counts.
-/
import CardTalk.Data
import CardTalk.Color
import CardTalk.Text.Reader

namespace CardTalk.Data.Notation

open TextReader

/-- The number that four hexadecimal digits denote. -/
def unit? (t : Text) : Option (Nat × Text) :=
  match t with
  | a :: b :: c :: d :: rest => do
    return (256 * (← Color.hexPair? a b) + (← Color.hexPair? c d), rest)
  | _ => none

/-- The characters that a letter after a backslash stands for. -/
def escapes : List (Char × Char) := [
  ('"', '"'), ('\\', '\\'), ('/', '/'), ('b', '\x08'), ('f', '\x0c'), ('n', '\n'), ('r', '\r'),
  ('t', '\t')]

/-- A character after a backslash.  Two units in the ranges for that stand together for one
character beyond the first 65536. -/
def escaped : TextReader Char
  | 'u' :: t => do
    let (high, rest) ← unit? t
    if 0xd800 ≤ high ∧ high < 0xdc00 then
      match rest with
      | '\\' :: 'u' :: more => do
        let (low, rest) ← unit? more
        return (Char.ofNat (0x10000 + (high - 0xd800) * 0x400 + (low - 0xdc00)), rest)
      | _ => none
    else return (Char.ofNat high, rest)
  | c :: t => (List.lookup c escapes).map fun d => (d, t)
  | [] => none

/-- A text up to its closing quote.  Every step takes a character, so the length of the
text is enough fuel. -/
def quoted : Nat → TextReader Text
  | 0, _ => none
  | _ + 1, [] => none
  | fuel + 1, c :: rest =>
    if c = '"' then some ([], rest)
    else do
      let (first, rest) ← if c = '\\' then escaped rest else some (c, rest)
      let (more, rest) ← quoted fuel rest
      return (first :: more, rest)

/-- The characters that a number may have. -/
def isNumeralPart (c : Char) : Bool := c.isDigit || c ∈ ['-', '+', '.', 'e', 'E']

/-- A number. -/
def number : TextReader Value := fun t =>
  let written := t.takeWhile isNumeralPart
  let rest := t.drop written.length
  if written.any fun c => c == '.' || c == 'e' || c == 'E' then
    if Number.isNumeral written then (Number.leading? written).map fun x => (.float x, rest)
    else none
  else (Number.wholeInt? written).toOption.join.map fun n => (.int n, rest)

/-- A word that stands for a value, or a number. -/
def plain : TextReader Value := fun t =>
  match [(("null" : Text), Value.null), ("true", .logical true), ("false", .logical false)].find?
    fun w => w.1.isPrefixOf t with
  | some (word, v) => some (v, t.drop word.length)
  | none => number t

mutual

/-- Data.  Every level and every item takes a character, so twice the length of the text is
enough fuel. -/
def data : Nat → TextReader Data
  | 0, _ => none
  | fuel + 1, t =>
    match Text.trimStart t with
    | '"' :: rest => (quoted fuel rest).map fun r => (.value (.text r.1), r.2)
    | '[' :: rest =>
      match symbol ']' rest with
      | some ((), rest) => some (.list [], rest)
      | none => (items fuel rest).map fun r => (.list r.1, r.2)
    | '\x7b' :: rest =>
      match symbol '\x7d' rest with
      | some ((), rest) => some (.mapping [], rest)
      | none => (entries fuel [] rest).map fun r => (.mapping r.1, r.2)
    | t => (plain t).map fun r => (.value r.1, r.2)

/-- The items of a list up to its closing bracket. -/
def items : Nat → TextReader (List Data)
  | 0, _ => none
  | fuel + 1, t => do
    let (first, rest) ← data fuel t
    match symbol ',' rest with
    | some ((), rest) => do
      let (more, rest) ← items fuel rest
      return (first :: more, rest)
    | none => do
      let ((), rest) ← symbol ']' rest
      return ([first], rest)

/-- The entries of a mapping up to its closing brace, after those in `found`. -/
def entries : Nat → Table Data → TextReader (Table Data)
  | 0, _, _ => none
  | fuel + 1, found, t => do
    let ((), rest) ← symbol '"' t
    let (name, rest) ← quoted fuel rest
    let ((), rest) ← symbol ':' rest
    let (d, rest) ← data fuel rest
    let found := found.put name d
    match symbol ',' rest with
    | some ((), rest) => entries fuel found rest
    | none => do
      let ((), rest) ← symbol '\x7d' rest
      return (found, rest)

end

/-- The data that a text is as a whole; an empty text is nothing. -/
def read? (t : Text) : Option Data :=
  if Text.allBlank t then some .null else (data (2 * t.length + 2) t).bind whole

end CardTalk.Data.Notation
