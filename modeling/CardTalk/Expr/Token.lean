/-
The tokens of an expression.

An expression is cut into strings, numbers, words, operator symbols, parentheses and
commas; blanks between them are dropped.  Every token keeps the span of the source it
came from, because an expression that turns out to be prose is its own text.  A run such
as `12px` is one word and not a number followed by a word, and an apostrophe inside a
word belongs to it.
-/
import CardTalk.Quote
import CardTalk.Text.Case
import CardTalk.Text.Digit

namespace CardTalk

/-- The kinds of token. -/
inductive Token.Kind where
  | string | number | word | operator | open | close | comma | ending
  deriving DecidableEq, Repr

/-- A token: its value and its span in the source, from `start` up to `stop`. -/
structure Token where
  kind : Token.Kind
  value : Text
  start : Nat
  stop : Nat
  deriving DecidableEq, Repr

namespace Token

open Text

/-- The operator symbols; a symbol that begins with another comes before it. -/
def symbols : List Text :=
  ["&&", ">=", "<=", "<>", "!=", "&", ">", "<", "=", "+", "-", "*", "/"]

/-- What a word is made of: no blanks, quotes, operator characters or punctuation. -/
def isWordPart (c : Char) : Bool :=
  !isBlank c && c ∉ ['"', '\'', '&', '=', '<', '>', '!', '+', '-', '*', '/', '(', ')', ',']

/-- The word that a text starts with: word characters, then also apostrophes. -/
def wordAt (t : Text) : Text :=
  let head := t.takeWhile isWordPart
  if head.isEmpty then []
  else head ++ (t.drop head.length).takeWhile fun c => isWordPart c || c == '\''

/-- The unsigned number that a text starts with: digits, or digits around a point that
has digits after it. -/
def numberAt (t : Text) : Text :=
  let whole := t.takeWhile isDecimal
  match t.drop whole.length with
  | '.' :: rest =>
    let places := rest.takeWhile isDecimal
    if places.isEmpty then whole else whole ++ '.' :: places
  | _ => whole

/-- What the text after a quote `q` gives: the string up to the next `q` and how much of
the text it takes, quotes included. -/
def stringAt (q : Char) (t : Text) : Text × Nat :=
  let inner := t.takeWhile (· != q)
  (inner, if inner.length < t.length then inner.length + 2 else inner.length + 1)

/-- The kind, the value and the length of the token that starts with `c`, where `rest`
follows and `previous` came before. -/
def lexeme (previous : Option Char) (c : Char) (rest : Text) : Kind × Text × Nat :=
  if Quote.opens previous c then
    let (inner, length) := stringAt c rest
    (.string, inner, length)
  else if c = '(' then (.open, [c], 1)
  else if c = ')' then (.close, [c], 1)
  else if c = ',' then (.comma, [c], 1)
  else
    match symbols.find? fun s => s.isPrefixOf (c :: rest) with
    | some symbol => (.operator, symbol, symbol.length)
    | none =>
      let number := numberAt (c :: rest)
      let word := wordAt (c :: rest)
      if !number.isEmpty && word.length ≤ number.length then (.number, number, number.length)
      else if word.isEmpty then (.word, [c], 1)
      else (.word, word, word.length)

/-- The tokens of a text that starts at position `at` of the source.  Every step takes at
least one character, so the length of the text is enough fuel. -/
def scanFrom : Nat → Nat → Option Char → Text → List Token
  | 0, _, _, _ => []
  | _ + 1, _, _, [] => []
  | fuel + 1, position, previous, c :: rest =>
    if isBlank c then scanFrom fuel (position + 1) (some c) rest
    else
      let (kind, value, length) := lexeme previous c rest
      ⟨kind, value, position, position + length⟩ ::
        scanFrom fuel (position + length) (c :: rest)[length - 1]? ((c :: rest).drop length)

/-- The tokens of a text. -/
def scan (t : Text) : List Token := scanFrom t.length 0 none t

/-- The token that marks the end of a text. -/
def endOf (t : Text) : Token := ⟨.ending, [], t.length, t.length⟩

/-- The tokens of a text with its end mark. -/
def tokenize (t : Text) : List Token := scan t ++ [endOf t]

/-- Whether the token is the word `w`, in any case. -/
def isWord (token : Token) (w : Text) : Bool :=
  token.kind == .word && lower token.value == w

/-- Whether the token is the operator symbol `s`. -/
def isSymbol (token : Token) (s : Text) : Bool :=
  token.kind == .operator && token.value == s

end Token

end CardTalk
