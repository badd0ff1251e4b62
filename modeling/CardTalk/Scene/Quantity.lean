/-
Stored numbers.

The numbers that an object stores are whole or floating-point, as they were given: a
whole one keeps all its digits and is written without a point.  Arithmetic on whole
numbers is exact; as soon as one side is floating-point, so is the result.  A whole number
that is too large to have a floating-point number near it is a fault where one is needed.
-/
import CardTalk.Data

namespace CardTalk

/-- A stored number. -/
inductive Quantity where
  | int (n : Int)
  | float (x : Float)
  deriving DecidableEq

namespace Quantity

instance : OfNat Quantity n := ⟨int n⟩

/-- The nearest floating-point number, where there is one. -/
def toFloat : Quantity → Except Fault Float
  | int n => Number.ofInt n
  | float x => .ok x

/-- The sum of two stored numbers. -/
def plus : Quantity → Quantity → Except Fault Quantity
  | int a, int b => .ok (int (a + b))
  | a, b => do return float ((← a.toFloat) + (← b.toFloat))

/-- The difference of two stored numbers. -/
def minus : Quantity → Quantity → Except Fault Quantity
  | int a, int b => .ok (int (a - b))
  | a, b => do return float ((← a.toFloat) - (← b.toFloat))

/-- Half of a number, as a floating-point number. -/
def half : Quantity → Except Fault Quantity
  | int n =>
    let x := Binary.nearest (n < 0) n.natAbs (-1)
    if x.isInf then .error .quotientTooLarge else .ok (float x)
  | float x => .ok (float (x / 2))

/-- The whole part of a number, cutting off toward zero. -/
def whole : Quantity → Except Fault Int
  | int n => .ok n
  | float x => Number.truncate x

/-- Whether two stored numbers are the same number. -/
def same : Quantity → Quantity → Bool
  | int a, int b => a == b
  | float x, float y => x == y
  | int a, float x | float x, int a => Number.isWhole x && Number.whole? x == some a

/-- The number as a coordinate is given to a script: a whole one with all its digits, but
only if there is a floating-point number near it. -/
def coordinate : Quantity → Except Fault Text
  | int n => do
    let _ ← Number.ofInt n
    return Text.ofInt n
  | float x => .ok (Number.text x)

/-- The number as any other property is given to a script. -/
def text (q : Quantity) : Except Fault Text := do return Number.text (← q.toFloat)

/-- The number as it stands in the description of an object. -/
def described : Quantity → Text
  | int n => Text.ofInt n
  | float x => Layout.plain.text x

/-- The number that a value is, if it is one. -/
def ofValue? : Value → Option Quantity
  | .int n => some (int n)
  | .float x => some (float x)
  | .logical b => some (int (if b then 1 else 0))
  | _ => none

/-- The number that data are, if they are one. -/
def ofData? : Data → Option Quantity
  | .value v => ofValue? v
  | _ => none

/-- Whether a number is positive. -/
def isPositive : Quantity → Bool
  | int n => n > 0
  | float x => x > 0

end Quantity

end CardTalk
