/-
What a floating-point number denotes, in exact integers.

`Binary.of` reads a number's bits as a sign, a whole significand and a power of two, or
as one of the values that denote no number.  Whatever needs the exact value of a number
(its digits, its whole part, a remainder) is computed on that form with integers, and
`Binary.nearest` goes back, rounding to the nearest number where there is a choice.
-/
namespace CardTalk

/-- The exact meaning of a floating-point number. -/
inductive Binary where
  /-- The number `significand * 2 ^ exponent`, or its negative. -/
  | finite (negative : Bool) (significand : Nat) (exponent : Int)
  | infinite (negative : Bool)
  | undefined
  deriving DecidableEq, Repr

namespace Binary

/-- Reads sign, exponent and significand off the bits of a number. -/
def of (x : Float) : Binary :=
  let bits : Nat := x.toBits.toNat
  let negative := bits / Nat.pow 2 63 == 1
  let exponent : Nat := bits / Nat.pow 2 52 % Nat.pow 2 11
  let fraction := bits % Nat.pow 2 52
  if exponent = 2047 then
    if fraction = 0 then .infinite negative else .undefined
  else if exponent = 0 then .finite negative fraction (-1074)
  else .finite negative (Nat.pow 2 52 + fraction) ((exponent : Int) - 1075)

/-- The number `2 ^ n`, for an `n` below 1024. -/
def powerOfTwo (n : Nat) : Float := Float.ofBits (UInt64.ofNat ((n + 1023) * Nat.pow 2 52))

/-- The number nearest to a natural number.  Behind its 64 leading bits it only matters
whether any bit is set, which the last of the 64 can say. -/
def ofNat (n : Nat) : Float :=
  let spare := n.log2 - 63
  if spare = 0 then Float.ofNat n
  else if spare ≤ 960 then
    let leading := n / Nat.pow 2 spare
    let marked := if n % Nat.pow 2 spare = 0 then leading else leading ||| 1
    Float.ofNat marked * powerOfTwo spare
  else 1 / 0

/-- The number nearest to an integer. -/
def ofInt (n : Int) : Float := if n < 0 then -(ofNat n.natAbs) else ofNat n.natAbs

/-- The number nearest to `significand * 10 ^ exponent`: no number reaches `10 ^ 309`. -/
def ofDecimal (significand : Nat) (exponent : Int) : Float :=
  if exponent < 0 then Float.ofScientific significand true exponent.natAbs
  else if significand = 0 then 0
  else if 309 ≤ exponent then 1 / 0
  else ofNat (significand * Nat.pow 10 exponent.toNat)

/-- The number nearest to a significand times a power of two. -/
def nearest (negative : Bool) (significand : Nat) (exponent : Int) : Float :=
  let size :=
    if exponent < 0 then ofDecimal (significand * Nat.pow 5 exponent.natAbs) exponent
    else ofNat (significand * Nat.pow 2 exponent.toNat)
  if negative then -size else size

/-- The largest whole number not above `significand * 2 ^ exponent`. -/
def wholePart (significand : Nat) (exponent : Int) : Nat :=
  if exponent < 0 then significand / Nat.pow 2 exponent.natAbs
  else significand * Nat.pow 2 exponent.toNat

/-- Whether `significand * 2 ^ exponent` is a whole number. -/
def isWhole (significand : Nat) (exponent : Int) : Bool :=
  if exponent < 0 then significand % Nat.pow 2 exponent.natAbs == 0 else true

/-- A natural number with a sign. -/
def signed (negative : Bool) (n : Nat) : Int := if negative then -n else n

end Binary

end CardTalk
