/-
Decimal digits of every script, and the value of each.

Each script keeps its ten digits in one run, zero first, so the table holds the zeros only:
a character is a decimal digit exactly when it lies within nine places of one of them, and
that distance is its value.  `isDigit` is wider: it also has superscripts and the like,
which look like digits but have no decimal value.
-/
import CardTalk.Text.Basic

namespace CardTalk.Text

/-- The zero of each run of ten decimal digits from 128 on. -/
def decimalZeros : List Nat := [
  0x660, 0x6f0, 0x7c0, 0x966, 0x9e6, 0xa66, 0xae6, 0xb66, 0xbe6, 0xc66,
  0xce6, 0xd66, 0xde6, 0xe50, 0xed0, 0xf20, 0x1040, 0x1090, 0x17e0, 0x1810,
  0x1946, 0x19d0, 0x1a80, 0x1a90, 0x1b50, 0x1bb0, 0x1c40, 0x1c50, 0xa620, 0xa8d0,
  0xa900, 0xa9d0, 0xa9f0, 0xaa50, 0xabf0, 0xff10, 0x104a0, 0x10d30, 0x11066, 0x110f0,
  0x11136, 0x111d0, 0x112f0, 0x11450, 0x114d0, 0x11650, 0x116c0, 0x11730, 0x118e0, 0x11950,
  0x11c50, 0x11d50, 0x11da0, 0x16a60, 0x16ac0, 0x16b50, 0x1d7ce, 0x1d7d8, 0x1d7e2, 0x1d7ec,
  0x1d7f6, 0x1e140, 0x1e2f0, 0x1e950, 0x1fbf0]

/-- Digits that are not decimal, as closed ranges in increasing order. -/
def nonDecimalDigitRanges : List (Nat × Nat) := [
  (0xb2, 0xb3), (0xb9, 0xb9), (0x1369, 0x1371), (0x19da, 0x19da), (0x2070, 0x2070),
  (0x2074, 0x2079), (0x2080, 0x2089), (0x2460, 0x2468), (0x2474, 0x247c), (0x2488, 0x2490),
  (0x24ea, 0x24ea), (0x24f5, 0x24fd), (0x24ff, 0x24ff), (0x2776, 0x277e), (0x2780, 0x2788),
  (0x278a, 0x2792), (0x10a40, 0x10a43), (0x10e60, 0x10e68), (0x11052, 0x1105a), (0x1f100, 0x1f10a)]

/-- The value of a decimal digit. -/
def digitValue? (c : Char) : Option Nat :=
  if c.val < 128 then
    if c.isDigit then some (c.toNat - '0'.toNat) else none
  else
    (decimalZeros.find? fun z => z ≤ c.toNat && c.toNat ≤ z + 9).map (c.toNat - ·)

/-- A digit with a decimal value. -/
def isDecimal (c : Char) : Bool := (digitValue? c).isSome

/-- A decimal digit, or a sign written like one such as a superscript two. -/
def isDigit (c : Char) : Bool :=
  isDecimal c || inRanges nonDecimalDigitRanges c

/-- The number that a run of digits denotes; characters without a value count as zero.
A run is cut in half `halvings` times before its digits are taken one by one. -/
def natOfDigitsWith : Nat → Text → Nat
  | 0, t => t.foldl (fun n c => 10 * n + (digitValue? c).getD 0) 0
  | halvings + 1, t =>
    let last := t.length / 2
    let first := t.length - last
    natOfDigitsWith halvings (t.take first) * Nat.pow 10 last
      + natOfDigitsWith halvings (t.drop first)

/-- The number that a run of digits denotes; characters without a value count as zero.
Long runs are cut in halves until about thirty digits are left, which takes far fewer
steps on large numbers than one digit after the other. -/
def natOfDigits (t : Text) : Nat := natOfDigitsWith (t.length.log2 - 5) t

end CardTalk.Text
