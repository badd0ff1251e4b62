/-
A small language for host-mode scripts: its text.

It is the part of the usual language that simple scripts make do with.  A script is a list of
lines.  A line is empty, a comment, an assignment to a global variable, a call of a method on
the scene or on another one that a variable holds, or a call of `error`.  Expressions are
constants, global variables, calls, fields and items of what calls give, lengths, and texts
joined by two dots.
-/
import CardTalk.Value
import CardTalk.Text.Reader

namespace CardTalk.Host.Line

open TextReader

/-- An expression. -/
inductive Expr where
  | constant (v : Value)
  | global (name : Text)
  /-- A call of a method on the scene that a global variable holds. -/
  | call (holder method : Text) (args : List Expr)
  | field (e : Expr) (name : Text)
  | item (e : Expr) (index : Expr)
  | length (e : Expr)
  | join (left right : Expr)

/-- What a line does. -/
inductive Statement where
  | assign (name : Text) (value : Expr)
  | call (holder method : Text) (args : List Expr)
  | error (words : Expr)

/-- A name that a text starts with. -/
def name : TextReader Text
  | [] => none
  | c :: rest =>
    if c.isAlpha || c == '_' then
      let more := rest.takeWhile fun d => d.isAlphanum || d == '_'
      some (c :: more, rest.drop more.length)
    else none

/-- The text between two quotes `q`, the first of which has been read. -/
def quoted (q : Char) : TextReader Value := fun t =>
  let inner := t.takeWhile (· != q)
  match t.drop inner.length with
  | _ :: rest => some (.text inner, rest)
  | [] => none

/-- The largest integer that a script can write. -/
def largestInt : Nat := Nat.pow 2 63 - 1

/-- The exponent of a number, if there is one: its text and the rest. -/
def exponentPart (t : Text) : Text × Text :=
  match t with
  | mark :: rest =>
    let (sign, digits) := match rest with
      | '-' :: more => (['-'], more)
      | '+' :: more => (['+'], more)
      | _ => ([], rest)
    let digits := digits.takeWhile Char.isDigit
    if (mark = 'e' || mark = 'E') && !digits.isEmpty then
      (mark :: sign ++ digits, rest.drop (sign.length + digits.length))
    else ([], t)
  | [] => ([], [])

/-- A number without a sign: with a point, with an exponent or beyond the integers it is a
floating-point number.  Nothing that could belong to a number may follow it. -/
def unsigned : TextReader Value := fun t =>
  let whole := t.takeWhile Char.isDigit
  let (fraction, rest) : Text × Text := match t.drop whole.length with
    | '.' :: more =>
      let places := more.takeWhile Char.isDigit
      ('.' :: places, more.drop places.length)
    | rest => ([], rest)
  let (exponent, rest) := exponentPart rest
  let goesOn := match rest with
    | c :: _ => c == '.' || c == '_' || c.isAlphanum
    | [] => false
  let n := Text.natOfDigits whole
  if goesOn then none
  else if fraction.isEmpty && exponent.isEmpty && n ≤ largestInt then
    if whole.isEmpty then none else some (.int n, rest)
  else (Number.leading? (whole ++ fraction ++ exponent)).map fun x => (.float x, rest)

/-- A number, with a minus if it is negative. -/
def numeral : TextReader Value
  | '-' :: t =>
    (unsigned (Text.trimStart t)).map fun
      | (.int n, rest) => (.int (-n), rest)
      | (.float x, rest) => (.float (-x), rest)
      | r => r
  | t => unsigned t

/-- What a word stands for if it is a constant. -/
def constant? (word : Text) : Option Value :=
  List.lookup word
    [(("nil" : Text), Value.null), ("true", .logical true), ("false", .logical false)]

mutual

/-- An expression.  Every step reads something or goes from a text to its first part, so
twice the length of the text is enough fuel. -/
def expr : Nat → TextReader Expr
  | 0, _ => none
  | fuel + 1, t => do
    let (first, rest) ← term fuel (Text.trimStart t)
    match Text.trimStart rest with
    | '.' :: '.' :: more => do
      let (second, rest) ← expr fuel more
      return (.join first second, rest)
    | _ => return (first, rest)

/-- An expression without joining. -/
def term : Nat → TextReader Expr
  | 0, _ => none
  | _ + 1, [] => none
  | fuel + 1, c :: t =>
    if c = '"' || c = '\'' then (quoted c t).map fun r => (.constant r.1, r.2)
    else if c = '#' then (term fuel t).map fun r => (.length r.1, r.2)
    else
      match name (c :: t) with
      | none => (numeral (c :: t)).map fun r => (.constant r.1, r.2)
      | some (word, rest) =>
        match constant? word with
        | some v => some (.constant v, rest)
        | none =>
          match methodCall fuel rest with
          | some (method, args, rest) => suffix fuel (.call word method args) rest
          | none => suffix fuel (.global word) rest

/-- The fields and items that are taken of an expression. -/
def suffix : Nat → Expr → TextReader Expr
  | 0, _, _ => none
  | fuel + 1, e, t =>
    match t with
    | '.' :: rest =>
      match name rest with
      | some (word, rest) => suffix fuel (.field e word) rest
      | none => some (e, t)
    | '[' :: rest => do
      let (i, rest) ← expr fuel rest
      let ((), rest) ← symbol ']' rest
      suffix fuel (.item e i) rest
    | _ => some (e, t)

/-- A method and its arguments, after the variable that holds a scene. -/
def methodCall : Nat → Text → Option (Text × List Expr × Text)
  | 0, _ => none
  | fuel + 1, t => do
    let ((), rest) ← symbol '.' t
    let (method, rest) ← name rest
    let ((), rest) ← symbol '(' rest
    match symbol ')' rest with
    | some ((), rest) => return (method, [], rest)
    | none => do
      let (args, rest) ← arguments fuel rest
      return (method, args, rest)

/-- Arguments up to the closing parenthesis. -/
def arguments : Nat → TextReader (List Expr)
  | 0, _ => none
  | fuel + 1, t => do
    let (first, rest) ← expr fuel t
    match symbol ',' rest with
    | some ((), rest) => do
      let (more, rest) ← arguments fuel rest
      return (first :: more, rest)
    | none => do
      let ((), rest) ← symbol ')' rest
      return ([first], rest)

end

/-- Enough fuel for a text. -/
def fuelFor (t : Text) : Nat := 4 * t.length + 4

/-- The statement on a line that is neither empty nor a comment. -/
def statement? (t : Text) : Option Statement := do
  let fuel := fuelFor t
  let (word, rest) ← name t
  match symbol '=' rest with
  | some ((), rest) => do
    let (value, rest) ← expr fuel rest
    whole (.assign word value, rest)
  | none =>
    if word = "error" then do
      let ((), rest) ← symbol '(' rest
      let (words, rest) ← expr fuel rest
      let ((), rest) ← symbol ')' rest
      whole (.error words, rest)
    else do
      let (method, args, rest) ← methodCall fuel rest
      whole (.call word method args, rest)

/-- The lines of a script.  A line feed, a carriage return or both, in any order, end a
line. -/
def linesOf : Text → List Text
  | '\r' :: '\n' :: rest | '\n' :: '\r' :: rest | '\r' :: rest | '\n' :: rest => [] :: linesOf rest
  | c :: rest =>
    match linesOf rest with
    | [] => [[c]]
    | line :: lines => (c :: line) :: lines
  | [] => [[]]

/-- The statements of a script with the numbers of their lines, or the number of a line
that is none. -/
def statements (script : Text) : Except Nat (List (Nat × Statement)) :=
  go 1 (linesOf script)
where
  /-- `number` is the number of the first of the lines. -/
  go (number : Nat) : List Text → Except Nat (List (Nat × Statement))
    | [] => .ok []
    | line :: rest =>
      let t := Text.trim line
      if t.isEmpty || ("--" : Text).isPrefixOf t then go (number + 1) rest
      else
        match statement? t with
        | none => .error number
        | some s => do return (number, s) :: (← go (number + 1) rest)

end CardTalk.Host.Line
