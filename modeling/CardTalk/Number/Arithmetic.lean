/-
Arithmetic whose result is not one machine operation.

Whole parts and remainders are exact, because they are computed on the exact meaning of
the numbers (`Binary`).  A sum of many numbers is rounded once: the running total is kept
as a list of numbers that add up to it exactly, and only the end result is rounded.
-/
import CardTalk.Number.Binary
import CardTalk.Fault

namespace CardTalk.Number

/-- Positive infinity. -/
def infinity : Float := Float.ofBits 0x7ff0000000000000

/-- The number that stands for no number. -/
def undefined : Float := Float.ofBits 0x7ff8000000000000

/-- The whole part of a number, cutting off toward zero. -/
def truncate (x : Float) : Except Fault Int :=
  match Binary.of x with
  | .finite negative significand exponent =>
    .ok (Binary.signed negative (Binary.wholePart significand exponent))
  | .infinite _ => .error .infinityToInteger
  | .undefined => .error .undefinedToInteger

/-- The whole part of a finite number, and `none` otherwise. -/
def whole? (x : Float) : Option Int := (truncate x).toOption

/-- Whether a number is finite and equal to its whole part. -/
def isWhole (x : Float) : Bool :=
  match Binary.of x with
  | .finite _ significand exponent => Binary.isWhole significand exponent
  | _ => false

/-- The nearest whole number, a half going away from zero, by adding a half to the size. -/
def round (x : Float) : Except Fault Float := do
  let size ← truncate (x.abs + 0.5)
  let rounded := Binary.ofInt size
  return if x < 0 then -rounded else rounded

/-- The remainder of `a` by `b`, with the sign of `a`; `b` is not zero. -/
def remainder (a b : Float) : Except Fault Float :=
  match Binary.of a, Binary.of b with
  | .undefined, _ | _, .undefined => .ok undefined
  | .infinite _, _ => .error .remainderDomain
  | .finite .., .infinite _ => .ok a
  | .finite negative m p, .finite _ n q =>
    let e := min p q
    let r := (m * Nat.pow 2 (p - e).toNat) % (n * Nat.pow 2 (q - e).toNat)
    .ok (Binary.nearest negative r e)

/-- Adds `x` to the parts of a running total, smallest part first: each part takes what
the addition rounds off, and the rounded sum goes on to the next. -/
def addPart (x : Float) : List Float → Float × List Float
  | [] => (x, [])
  | y :: parts =>
    let (big, small) := if x.abs < y.abs then (y, x) else (x, y)
    let sum := big + small
    let lost := small - (sum - big)
    let (last, kept) := addPart sum parts
    (last, if lost == 0 then kept else lost :: kept)

/-- A sum in progress: the parts of its finite terms, and the infinite terms. -/
structure Sum where
  parts : List Float := []
  hasInfinity : Bool := false
  hasNegativeInfinity : Bool := false

/-- Takes one more term into the sum. -/
def Sum.add (s : Sum) (x : Float) : Except Fault Sum :=
  let (last, kept) := addPart x s.parts
  if last.isFinite then
    .ok { s with parts := if last == 0 then kept else kept ++ [last] }
  else if x.isFinite then .error .sumOverflow
  else
    .ok { parts := []
          hasInfinity := s.hasInfinity || x > 0
          hasNegativeInfinity := s.hasNegativeInfinity || x < 0 }

/-- Rounds the parts, largest first, to one number.  `next` is the sign of the largest
part that did not take part in the rounding: it breaks a tie the right way. -/
def roundParts (total : Float) : List Float → Float
  | [] => total
  | y :: smaller =>
    let sum := total + y
    let lost := y - (sum - total)
    if lost == 0 then roundParts sum smaller
    else
      match smaller with
      | [] => sum
      | next :: _ =>
        let twice := lost * 2
        let up := sum + twice
        if ((lost < 0 && next < 0) || (lost > 0 && next > 0)) && twice == up - sum then up
        else sum

/-- The value of a finished sum. -/
def Sum.value (s : Sum) : Except Fault Float :=
  if s.hasInfinity && s.hasNegativeInfinity then .error .oppositeInfinities
  else if s.hasInfinity then .ok infinity
  else if s.hasNegativeInfinity then .ok (-infinity)
  else
    match s.parts.reverse with
    | [] => .ok 0
    | largest :: smaller => .ok (roundParts largest smaller)

/-- The sum of the numbers, rounded once. -/
def sum (xs : List Float) : Except Fault Float := do
  let s ← xs.foldlM (fun s x => s.add x) ({} : Sum)
  s.value

end CardTalk.Number
