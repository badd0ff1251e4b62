/-
Reading a text by trying alternatives.

A `Search` reads a beginning of a text in the ways it can.  It offers each way, the
preferred one first, as a result and what is left, to what comes after it, and stops at the
first way that is accepted.  Statement forms are written as searches one after another.
Blanks are passed as far as possible, other parts are read as far as necessary (`upTo`);
both give way when the parts after them fail, and what the form reads is the first way
that the whole can be read.  Words are compared without regard to case.
-/
import CardTalk.Text.Blank
import CardTalk.Text.Case
import CardTalk.Text.Alphanumeric

namespace CardTalk

/-- The ways to read a beginning of a text, offered in turn to what accepts or refuses a
result and the rest. -/
def Search (α : Type) : Type 1 :=
  (β : Type) → Text → (α → Text → Option β) → Option β

namespace Search

variable {α : Type}

instance : Monad Search where
  pure a := fun _ t accept => accept a t
  bind m f := fun β t accept => m β t fun a rest => f a β rest accept

/-- What the form reads, if it can be read at all. -/
def first? (m : Search α) (t : Text) : Option α := m α t fun a _ => some a

/-- What the form leaves unread, if it can be read at all. -/
def rest? (m : Search α) (t : Text) : Option Text := m Text t fun _ rest => some rest

/-- Whether the text starts with the form. -/
def matches? (m : Search α) (t : Text) : Bool := (m.first? t).isSome

/-- The ways of `m` before those of `n`. -/
protected def or (m n : Search α) : Search α := fun β t accept =>
  match m β t accept with
  | some b => some b
  | none => n β t accept

/-- The ways of `m`, and last the way that reads nothing. -/
def optional (m : Search α) : Search (Option α) := Search.or (some <$> m) (pure none)

/-- The ways of `m` whose result has the property. -/
def having (q : α → Bool) (m : Search α) : Search α := fun β t accept =>
  m β t fun a rest => if q a then accept a rest else none

/-- The ways of `m`, with the part of the text that each reads beside its result. -/
def span (m : Search α) : Search (Text × α) := fun β t accept =>
  m β t fun a rest => accept (t.take (t.length - rest.length), a) rest

/-- One character with the property. -/
def oneOf (p : Char → Bool) : Search Char := fun _ t accept =>
  match t with
  | [] => none
  | c :: rest => if p c then accept c rest else none

/-- What is left of a text that starts with a word in any case. -/
def behind? : Text → Text → Option Text
  | [], t => some t
  | _ :: _, [] => none
  | a :: w, c :: t => if Text.fold a = Text.fold c then behind? w t else none

/-- The letters of `w` in any case. -/
def word (w : Text) : Search Unit := fun _ t accept => (behind? w t).bind (accept ())

/-- One of the words in any case, the earlier ones preferred, for what it stands for. -/
def anyOf (words : List (Text × α)) : Search α := fun β t accept =>
  words.findSome? fun w => word w.1 β t fun _ rest => accept w.2 rest

/-- Nothing, where the next character does not have the property. -/
def notBefore (p : Char → Bool) : Search Unit := fun _ t accept =>
  match t with
  | [] => accept () []
  | c :: rest => if p c then none else accept () (c :: rest)

/-- Nothing, where an identifier cannot go on. -/
def wordEnd : Search Unit := notBefore Text.isWord

/-- The end of the text, or the place before a line feed that ends it. -/
def ending : Search Unit := fun _ t accept =>
  if t = [] ∨ t = ['\n'] then accept () t else none

/-! ### Runs of characters -/

/-- Offers a rest, and while it is refused gives back to it one character after another of
those before it, the nearest first. -/
def givingBack {β : Type} (accept : Text → Option β) : Text → Text → Option β
  | [], rest => accept rest
  | c :: before, rest =>
    match accept rest with
    | some b => some b
    | none => givingBack accept before (c :: rest)

/-- Any number of blanks, as many as possible. -/
def blanks : Search Unit := fun _ t accept =>
  givingBack (accept ()) (t.takeWhile Text.isBlank).reverse (t.dropWhile Text.isBlank)

/-- At least one blank, as many as possible. -/
def blanks1 : Search Unit := do
  let _ ← oneOf Text.isBlank
  blanks

/-- The characters up to the first that does not have the property, possibly none. -/
def run (p : Char → Bool) : Search Text := fun _ t accept =>
  accept (t.takeWhile p) (t.dropWhile p)

/-- The characters up to the first that does not have the property, at least one. -/
def run1 (p : Char → Bool) : Search Text := (run p).having fun w => !w.isEmpty

/-- Looks for the first place where `stop` can be read and what it reads is accepted;
`before` holds the characters passed, the last one first. -/
def upToFrom {β : Type} (p : Char → Bool) (stop : Search α)
    (accept : Text × α → Text → Option β) (before : Text) : Text → Option β
  | [] => stop β [] fun a rest => accept (before.reverse, a) rest
  | c :: t =>
    match stop β (c :: t) fun a rest => accept (before.reverse, a) rest with
    | some b => some b
    | none => if p c then upToFrom p stop accept (c :: before) t else none

/-- As few characters with the property as possible, possibly none, and then `stop`. -/
def upTo (p : Char → Bool) (stop : Search α) : Search (Text × α) := fun _ t accept =>
  upToFrom p stop accept [] t

/-- The characters that a statement on one line may have. -/
def inLine (c : Char) : Bool := c != '\n'

/-- The rest of the line, which has to be the last one. -/
def rest : Search Text := fun β t accept =>
  ending β (t.dropWhile inLine) fun _ left => accept (t.takeWhile inLine) left

/-- The rest of the line, which has to be the last one and must not be empty. -/
def rest1 : Search Text := rest.having fun line => !line.isEmpty

/-- As little as possible of the line, at least one character, and then `stop`. -/
def partUpTo (stop : Search α) : Search (Text × α) := do
  let c ← oneOf inLine
  let (more, a) ← upTo inLine stop
  return (c :: more, a)

end Search

end CardTalk
