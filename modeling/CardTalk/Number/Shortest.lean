/-
The fewest decimal digits that name a floating-point number.

Around every finite number lies the interval of reals that round to it.  For one digit,
two digits and so on, the value's two neighbours on the decimal grid of that many digits
are tried, in exact integers; the first grid with a neighbour in the interval gives the
digits.  Of two neighbours in the interval the nearer is taken, and of two equally near
the one with the even last digit.  Seventeen digits always suffice.  Rounding to a given
number of digits takes the nearer neighbour on one grid.
-/
import CardTalk.Number.Binary

namespace CardTalk

/-- The value `0.digits * 10 ^ point`; the first digit is not zero. -/
structure Decimal where
  digits : List Char
  point : Int
  deriving DecidableEq, Repr

namespace Decimal

/-- `n * 10 ^ e` for any integer `e`, as a fraction. -/
def scale (n : Nat) (e : Int) : Nat × Nat :=
  if e < 0 then (n, Nat.pow 10 e.natAbs) else (n * Nat.pow 10 e.toNat, 1)

/-- The first power of ten, counting up from `from`, that exceeds `num / den`. -/
def placeFrom (num den : Nat) : Nat → Int → Int
  | 0, e => e
  | tries + 1, e =>
    let (p, q) := scale 1 e
    if num * q < p * den then e else placeFrom num den tries (e + 1)

/-- The `e` with `10 ^ (e - 1) ≤ num / den < 10 ^ e`: the two logarithms bound it within
four steps. -/
def placeOf (num den : Nat) : Int :=
  let doublings : Int := (num.log2 : Int) - den.log2 - 1
  placeFrom num den 8 (doublings * 30103 / 100000 - 1)

/-- The digits of `n` without the zeros at the end. -/
def digitsOf (n : Nat) : List Char :=
  ((Nat.toDigits 10 n).reverse.dropWhile (· == '0')).reverse

/-- A positive value with the interval of reals that round to it, over one denominator. -/
structure Interval where
  low : Nat
  value : Nat
  high : Nat
  denominator : Nat
  /-- Whether the ends belong to the interval. -/
  closed : Bool

/-- The interval of `significand * 2 ^ exponent`.  Below a power of two the numbers lie
twice as close, so the lower half of the interval is half as wide there. -/
def Interval.of (significand : Nat) (exponent : Int) : Interval :=
  let narrow := significand == Nat.pow 2 52 && exponent != -1074
  let scaled := fun n : Nat =>
    if exponent < 2 then n else n * Nat.pow 2 (exponent - 2).toNat
  { low := scaled (4 * significand - if narrow then 1 else 2)
    value := scaled (4 * significand)
    high := scaled (4 * significand + 2)
    denominator := if exponent < 2 then Nat.pow 2 (2 - exponent).toNat else 1
    closed := significand % 2 == 0 }

/-- Whether `candidate * 10 ^ e` rounds to the value. -/
def Interval.has (i : Interval) (candidate : Nat) (e : Int) : Bool :=
  let (p, q) := scale candidate e
  if i.closed then i.low * q ≤ p * i.denominator && p * i.denominator ≤ i.high * q
  else i.low * q < p * i.denominator && p * i.denominator < i.high * q

/-- The neighbour of the value on the grid of multiples of `10 ^ e` that names it. -/
def Interval.onGrid (i : Interval) (e : Int) : Option Nat :=
  let (p, q) := scale 1 e
  let below := i.value * q / (i.denominator * p)
  let remainder := i.value * q % (i.denominator * p)
  let above := below + 1
  match i.has below e, i.has above e with
  | true, true =>
    let order := compare (2 * remainder) (i.denominator * p)
    if order == .lt || (order == .eq && below % 2 == 0) then some below else some above
  | true, false => some below
  | false, true => some above
  | false, false => none

/-- Tries grids of more and more digits, for as long as any are left. -/
def Interval.digits (i : Interval) (point : Int) : Nat → Int → Decimal
  | 0, _ => ⟨[], point⟩
  | left + 1, used =>
    match i.onGrid (point - used) with
    | some n =>
      -- a neighbour above may have reached the next power of ten
      ⟨digitsOf n, if n = Nat.pow 10 used.toNat then point + 1 else point⟩
    | none => i.digits point left (used + 1)

/-- The shortest decimal that rounds to a positive number. -/
def shortest (significand : Nat) (exponent : Int) : Decimal :=
  let i := Interval.of significand exponent
  i.digits (placeOf i.value i.denominator) 17 1

/-- A positive number rounded to a number of digits, a half going to the even last digit. -/
def rounded (places : Nat) (significand : Nat) (exponent : Int) : Decimal :=
  let i := Interval.of significand exponent
  let point := placeOf i.value i.denominator
  let (p, q) := scale 1 (point - places)
  let below := i.value * q / (i.denominator * p)
  let remainder := i.value * q % (i.denominator * p)
  let order := compare (2 * remainder) (i.denominator * p)
  let n := if order == .lt || (order == .eq && below % 2 == 0) then below else below + 1
  -- rounding up may have reached the next power of ten
  ⟨digitsOf n, if n = Nat.pow 10 places then point + 1 else point⟩

end Decimal

end CardTalk
