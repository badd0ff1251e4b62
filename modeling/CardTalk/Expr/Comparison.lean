/-
Comparing two texts.

Two texts that both start with a number are compared as numbers; any others are compared
character by character, without regard to case or to blanks at their ends, and with
colours in one spelling.  Whether one text contains another never looks at numbers.
-/
import CardTalk.Value
import CardTalk.Color
import CardTalk.Expr.Basic

namespace CardTalk.Comparison

/-- The form of a text that is compared with others. -/
def folded (t : Text) : Text := Color.canonical (Text.trim (Text.lower t))

/-- How two texts compare. -/
def order (left right : Text) : Ordering :=
  match Number.leading? left, Number.leading? right with
  | some x, some y => if x < y then .lt else if x == y then .eq else .gt
  | _, _ => if folded left < folded right then .lt
    else if folded left = folded right then .eq else .gt

/-- Whether the left text has the right one in it. -/
def holds (left right : Text) : Bool :=
  Text.contains (Text.lower (Text.trim right)) (Text.lower left)

/-- Whether an ordering is one that the operator asks for. -/
def accepts (op : BinaryOp) (o : Ordering) : Bool :=
  match op with
  | .equal | .is => o == .eq
  | .unequal | .unequalBang | .isNot => o != .eq
  | .greater => o == .gt
  | .less => o == .lt
  | .atLeast => o != .lt
  | _ => o != .gt

/-- Whether the comparison is true. -/
def compare (op : BinaryOp) (left right : Text) : Bool :=
  match op with
  | .contains => holds left right
  | _ => accepts op (order left right)

end CardTalk.Comparison
