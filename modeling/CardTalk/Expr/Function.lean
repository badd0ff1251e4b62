/-
The functions that expressions may call.

A function takes texts and gives a text.  Where it needs a number it takes the number
that the text starts with, or zero.  `max`, `min` and `sum` given one argument with
commas in it take its pieces as their arguments.  A call of an unknown function is prose:
its text is the name followed by the arguments.
-/
import CardTalk.Value
import CardTalk.Surroundings

namespace CardTalk

/-- The functions. -/
inductive Function where
  | random | abs | round | trunc | sqrt
  | length | upper | lower
  | max | min | sum
  | rgb
  deriving DecidableEq, Repr

namespace Function

/-- The function with a name in lower case. -/
def ofName? (name : Text) : Option Function :=
  List.lookup name [
    (("random" : Text), random), ("abs", abs), ("round", round), ("trunc", trunc),
    ("sqrt", sqrt), ("length", length), ("upper", upper), ("toupper", upper),
    ("lower", lower), ("tolower", lower), ("max", max), ("min", min), ("sum", sum),
    ("rgb", rgb)]

/-- A random whole number from one to a bound, which counts as one if it is less. -/
def drawUpTo (s : Surroundings) (bound : Float) : Except Fault Text := do
  let highest ← Number.truncate bound
  return Text.ofInt (s.draw 1 (Max.max 1 highest))

/-- The square root, and zero for a negative number. -/
def squareRoot (x : Float) : Float := if x ≥ 0 then x.sqrt else 0

/-- The numbers that the arguments are. -/
def numbers (args : List Text) : List Float :=
  let pieces := match args with
    | [t] => if ',' ∈ t then Text.splitOn ',' t else [t]
    | _ => args
  pieces.map numberOrZero

/-- The first of the numbers that none exceeds in the order `before`, or zero. -/
def extreme (before : Float → Float → Bool) : List Float → Float
  | [] => 0
  | x :: xs => xs.foldl (fun best y => if before best y then y else best) x

/-- The text that a function gives for its arguments. -/
def apply (s : Surroundings) (f : Function) (args : List Text) : Except Fault Text :=
  let first := args.head?.getD []
  let number := numberOrZero first
  match f with
  | random => drawUpTo s number
  | abs => .ok (Number.text number.abs)
  | round => do return Number.text (← Number.round number)
  | trunc => do return Text.ofInt (← Number.truncate number)
  | sqrt => .ok (Number.text (squareRoot number))
  | length => .ok (Text.ofNat first.length)
  | upper => .ok (Text.upper first)
  | lower => .ok (Text.lower first)
  | max => .ok (Number.text (extreme (fun best y => best < y) (numbers args)))
  | min => .ok (Number.text (extreme (fun best y => y < best) (numbers args)))
  | sum => do return Number.text (← Number.sum (numbers args))
  | rgb => .ok (("rgb(" : Text) ++ Text.joined "," (args.map Text.trim) ++ ")")

/-- The text of a call by name. -/
def call (s : Surroundings) (name : Text) (args : List Text) : Except Fault Text :=
  match ofName? (Text.lower name) with
  | some f => f.apply s args
  | none => .ok (name ++ Text.joined "," args)

end Function

end CardTalk
