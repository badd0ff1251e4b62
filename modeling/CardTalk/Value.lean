/-
Values, and how a text reads as one.

Every value that a script computes is a text.  A definition, a host-mode script or a
presenter may also hand over numbers, logical values or nothing at all; `Value` is what
can come from outside, and `Value.text` is how a script sees it.  The other functions
decide how a text reads as a number, as a logical value or as neither.
-/
import CardTalk.Number.Reading
import CardTalk.Number.Layout
import CardTalk.Number.Arithmetic
import CardTalk.Text.Case

namespace CardTalk

/-- How a script sees a number: a whole one has no point, and nothing is shown for the
undefined number but a zero. -/
def Number.text (x : Float) : Text :=
  match Binary.of x with
  | .undefined => "0"
  | .infinite negative => if negative then "-Infinity" else "Infinity"
  | .finite negative significand exponent =>
    let size := Binary.wholePart significand exponent
    if Binary.isWhole significand exponent && size < Nat.pow 10 21 then
      Text.ofInt (Binary.signed negative size)
    else Layout.plain.text x

/-- The floating-point number nearest to an integer, where there is one. -/
def Number.ofInt (n : Int) : Except Fault Float :=
  let x := Binary.ofInt n
  if x.isInf then .error .integerTooLarge else .ok x

/-- A value from outside the script language. -/
inductive Value where
  | null
  | logical (b : Bool)
  | int (n : Int)
  | float (x : Float)
  | text (t : Text)
  deriving DecidableEq

namespace Value

/-- The name of a value's type, as messages give it. -/
def typeName : Value → Text
  | null => "NoneType"
  | logical _ => "bool"
  | int _ => "int"
  | float _ => "float"
  | text _ => "str"

/-- The text of a truth value. -/
def ofBool (b : Bool) : Text := if b then "true" else "false"

/-- How a script sees a value.  Every number is a floating-point number to a script. -/
def toText : Value → Except Fault Text
  | null => .ok []
  | logical b => .ok (ofBool b)
  | int n => (Number.ofInt n).map Number.text
  | float x => .ok (Number.text x)
  | text t => .ok t

/-- The value as it is written in a message: integers with all their digits, truth values
and nothing by their names. -/
def shown : Value → Text
  | null => "None"
  | logical b => if b then "True" else "False"
  | int n => Text.ofInt n
  | float x => Layout.plain.text x
  | text t => t

/-- The value as it is written in the description of an object: a text is quoted. -/
def described : Value → Text
  | text t => Text.quoted t
  | v => v.shown

/-- The number that a value is or starts with. -/
def number? : Value → Except Fault (Option Float)
  | logical _ => .ok none
  | int n => (Number.ofInt n).map some
  | float x => .ok (some x)
  | v => .ok (Number.leading? v.shown)

/-- The integer that a value starts with when it is written. -/
def leadingInt? (v : Value) : Except Fault (Option Int) := Number.leadingInt? v.shown

/-- The whole number that a value denotes. -/
def toInt : Value → Except Fault Int
  | null => .error (.noIntegerReading Value.null.typeName)
  | logical b => .ok (if b then 1 else 0)
  | int n => .ok n
  | float x => Number.truncate x
  | text t => do
    match ← Number.wholeInt? t with
    | some n => return n
    | none => .error (.notAnInteger t)

end Value

/-- The words, trimmed and in lower case, that count as false. -/
def falseWords : List Text := ["false", "0", "", "empty"]

/-- The words, trimmed and in lower case, that are logical values besides numbers. -/
def logicalWords : List Text := ["true", "false", ""]

/-- Whether a text counts as true: everything does but the false words. -/
def isTruthy (t : Text) : Bool := Text.lower (Text.trim t) ∉ falseWords

/-- Whether a value counts as true. -/
def Value.isTruthy : Value → Except Fault Bool
  | logical b => .ok b
  | v => v.toText.map CardTalk.isTruthy

/-- Whether a text is a logical value or a number. -/
def readsAsLogical (t : Text) : Bool :=
  Text.lower (Text.trim t) ∈ logicalWords || Number.isNumeral t

/-- The number that a text starts with, or zero. -/
def numberOrZero (t : Text) : Float := (Number.leading? t).getD 0

end CardTalk
