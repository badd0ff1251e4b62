/-
How a number is written.

A floating-point number is written with the fewest digits that read back as it, by the
rules of `Layout.plain`: positional while its decimal exponent is neither small nor
large, with a point and at least one place; in scientific notation otherwise.
-/
import CardTalk.Number.Shortest
import CardTalk.Text.Basic

namespace CardTalk

/-- The decisions that writing a decimal leaves open. -/
structure Layout where
  /-- Decimal exponents of the leading digit that are written positionally. -/
  leastPositional : Int
  mostPositional : Int
  /-- Written after a whole positional number. -/
  wholeMark : Text
  exponentMark : Text
  /-- The fewest digits of a written exponent. -/
  exponentWidth : Nat
  zero : Text
  infinity : Text
  undefined : Text

namespace Layout

/-- Numbers from a ten-thousandth to just under ten quadrillion are positional, a whole
one ends in `.0`, and an exponent has a sign and at least two digits. -/
def plain : Layout where
  leastPositional := -4
  mostPositional := 15
  wholeMark := ".0"
  exponentMark := "e"
  exponentWidth := 2
  zero := "0.0"
  infinity := "inf"
  undefined := "nan"

/-- The exponent with its sign, padded with zeros. -/
def exponent (l : Layout) (e : Int) : Text :=
  let digits := Text.ofNat e.natAbs
  l.exponentMark ++ [if e < 0 then '-' else '+']
    ++ List.replicate (l.exponentWidth - digits.length) '0' ++ digits

/-- The digits of a positive number around its decimal point. -/
def decimal (l : Layout) (d : Decimal) : Text :=
  let leading := d.point - 1
  if l.leastPositional ≤ leading ∧ leading ≤ l.mostPositional then
    if d.point ≤ 0 then '0' :: '.' :: List.replicate d.point.natAbs '0' ++ d.digits
    else
      let whole := d.point.toNat
      if d.digits.length ≤ whole then
        d.digits ++ List.replicate (whole - d.digits.length) '0' ++ l.wholeMark
      else d.digits.take whole ++ '.' :: d.digits.drop whole
  else
    match d.digits with
    | [] => []
    | [first] => first :: l.exponent leading
    | first :: others => first :: '.' :: others ++ l.exponent leading

/-- A number's text by the layout's rules; `digits` chooses the digits of a positive
number. -/
def textWith (l : Layout) (digits : Nat → Int → Decimal) (x : Float) : Text :=
  let sign : Bool → Text := fun negative => if negative then ['-'] else []
  match Binary.of x with
  | .undefined => l.undefined
  | .infinite negative => sign negative ++ l.infinity
  | .finite negative significand exponent =>
    sign negative ++ if significand = 0 then l.zero else l.decimal (digits significand exponent)

/-- A number's text by the layout's rules with the fewest digits that read back as it. -/
def text (l : Layout) (x : Float) : Text := l.textWith Decimal.shortest x

end Layout

end CardTalk
