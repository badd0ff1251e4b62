/-
Reading numbers off a text.

A number may have a sign, a fraction, an exponent and digits of any script.  Two notions
are used: the number a text starts with, blanks aside (`leading?`), and a text that is a
number as a whole (`isNumeral`).  Integers are read the same two ways, but an integer of
too many digits is a fault.
-/
import CardTalk.Text.Blank
import CardTalk.Text.Digit
import CardTalk.Number.Binary
import CardTalk.Fault

namespace CardTalk.Number

open Text

/-- The parts of a written number, as they are written. -/
structure Numeral where
  negative : Bool
  /-- The digits before the point. -/
  whole : Text
  /-- The digits after the point. -/
  places : Text
  exponentNegative : Bool
  /-- The digits of the exponent. -/
  exponent : Text
  deriving DecidableEq, Repr

/-- More digits than a number halfway between two floating-point numbers can have. -/
def decidingDigits : Nat := 800

/-- A run of digits cut short, and how many places it has lost: of the digits behind those
that decide, it only matters whether they are all zero, which one digit says. -/
def cutShort (digits : Text) : Text × Nat :=
  let rest := digits.drop decidingDigits
  if rest.isEmpty then (digits, 0)
  else
    let last := if rest.all fun c => digitValue? c == some 0 then '0' else '1'
    (digits.take decidingDigits ++ [last], rest.length - 1)

/-- The number nearest to what is written. -/
def Numeral.toFloat (n : Numeral) : Float :=
  let digits := (n.whole ++ n.places).dropWhile fun c => digitValue? c == some 0
  let (kept, lost) := cutShort digits
  let exponent := Binary.signed n.exponentNegative (natOfDigits n.exponent)
  let size := Binary.ofDecimal (natOfDigits kept) (exponent - n.places.length + lost)
  if n.negative then -size else size

/-- A sign, if there is one: whether it is a minus, and the rest. -/
def readSign : Text → Bool × Text
  | '-' :: rest => (true, rest)
  | '+' :: rest => (false, rest)
  | t => (false, t)

/-- The decimal digits that a text starts with, and the rest. -/
def readDigits (t : Text) : Text × Text := (t.takeWhile isDecimal, t.dropWhile isDecimal)

/-- Digits before and after a point, either of which may be missing, but not both. -/
def readPlaces (t : Text) : Option (Text × Text × Text) :=
  let (whole, rest) := readDigits t
  match rest with
  | '.' :: more =>
    let (places, rest') := readDigits more
    if whole.isEmpty && places.isEmpty then none else some (whole, places, rest')
  | _ => if whole.isEmpty then none else some (whole, [], rest)

/-- An exponent, if there is a whole one: whether it is negative, its digits, and the rest. -/
def readExponent (t : Text) : Bool × Text × Text :=
  match t with
  | c :: rest =>
    if c = 'e' || c = 'E' then
      let (negative, rest') := readSign rest
      let (digits, rest'') := readDigits rest'
      if digits.isEmpty then (false, [], t) else (negative, digits, rest'')
    else (false, [], t)
  | [] => (false, [], t)

/-- The number that a text starts with, after blanks, and the rest. -/
def read? (t : Text) : Option (Numeral × Text) := do
  let (negative, rest) := readSign (trimStart t)
  let (whole, places, rest') ← readPlaces rest
  let (exponentNegative, exponent, rest'') := readExponent rest'
  return ({ negative, whole, places, exponentNegative, exponent }, rest'')

/-- The number that a text starts with; what follows it is ignored. -/
def leading? (t : Text) : Option Float := (read? t).map (·.1.toFloat)

/-- Whether a text is a number as a whole, blanks at its ends aside. -/
def isNumeral (t : Text) : Bool :=
  match read? t with
  | some (_, rest) => allBlank rest
  | none => false

/-! ### Integers -/

/-- The most digits that an integer may have to be read. -/
def mostDigits : Nat := 4300

/-- The integer with a sign and a run of digits. -/
def integerOf (negative : Bool) (digits : Text) : Except Fault Int :=
  if digits.length > mostDigits then .error (.tooManyDigits mostDigits digits.length)
  else .ok (Binary.signed negative (natOfDigits digits))

/-- The integer that a text starts with, if it does; what follows it is ignored. -/
def leadingInt? (t : Text) : Except Fault (Option Int) :=
  let (negative, rest) := readSign (trimStart t)
  let digits := rest.takeWhile isDecimal
  if digits.isEmpty then .ok none else (integerOf negative digits).map some

/-- Digits in which single underscores may stand between two digits. -/
def groupedDigits? (t : Text) : Option Text :=
  let groups := splitOn '_' t
  if groups.all fun g => !g.isEmpty && g.all isDecimal then some groups.flatten else none

/-- Whether a character may stand around an integer: a blank that is no information
separator. -/
def isMargin (c : Char) : Bool := isBlank c && !(28 ≤ c.toNat && c.toNat ≤ 31)

/-- The text without what may stand around an integer. -/
def withoutMargins (t : Text) : Text :=
  ((t.dropWhile isMargin).reverse.dropWhile isMargin).reverse

/-- The integer that a text is as a whole, if it is one, blanks at its ends aside. -/
def wholeInt? (t : Text) : Except Fault (Option Int) :=
  let (negative, rest) := readSign (withoutMargins t)
  match groupedDigits? rest with
  | none => .ok none
  | some digits => (integerOf negative digits).map some

end CardTalk.Number
