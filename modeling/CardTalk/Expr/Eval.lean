/-
The value of an expression.

Every value is a text.  Operators apply only where their operands are of the right kind:
`and` between two texts that are no logical values, or `mod` between texts that are no
numbers, was prose, and the value is the source text.  An atom is looked up: as one of a
few special forms, as a property of some entity, as a variable; an atom that is none of
these is prose too.
-/
import CardTalk.Expr.Parser
import CardTalk.Expr.Function
import CardTalk.Expr.Comparison
import CardTalk.Scene.Target
import CardTalk.Scene.Property

namespace CardTalk

/-- What an expression is evaluated against. -/
structure View where
  scene : Scene
  bindings : Variables
  surroundings : Surroundings

namespace Expr

/-! ### Operators -/

/-- The quotient of two numbers as `/` gives it: infinite for a divisor of zero, and the
undefined number for two zeros. -/
def quotient (a b : Float) : Float :=
  if b == 0 then
    if a == 0 then Number.undefined
    else if a < 0 then -Number.infinity else Number.infinity
  else a / b

/-- The value of an operator on numbers. -/
def arithmetic (op : BinaryOp) (a b : Float) : Except Fault Text :=
  match op with
  | .add => .ok (Number.text (a + b))
  | .subtract => .ok (Number.text (a - b))
  | .multiply => .ok (Number.text (a * b))
  | .divide => .ok (Number.text (quotient a b))
  | .modulo =>
    if b == 0 then .ok "0" else do return Number.text (← Number.remainder a b)
  | _ =>
    if b == 0 then .ok "0" else do return Text.ofInt (← Number.truncate (a / b))

/-- The value of an operator between two values; `prose` is the source text, and
`unresolved` says that the left operand is an atom that means nothing. -/
def applyBinary (op : BinaryOp) (left right prose : Text) (unresolved : Bool) :
    Except Fault Text :=
  let logical := readsAsLogical left && readsAsLogical right
  let numeric := Number.isNumeral left && Number.isNumeral right
  match op with
  | .and => .ok (if logical then Value.ofBool (isTruthy left && isTruthy right) else prose)
  | .or => .ok (if logical then Value.ofBool (isTruthy left || isTruthy right) else prose)
  | .join => .ok (left ++ right)
  | .joinSpaced => .ok (left ++ ' ' :: right)
  | .contains =>
    .ok (if unresolved then prose else Value.ofBool (Comparison.compare op left right))
  | .modulo | .quotient =>
    if numeric then arithmetic op (numberOrZero left) (numberOrZero right) else .ok prose
  | .add | .subtract | .multiply | .divide =>
    arithmetic op (numberOrZero left) (numberOrZero right)
  | _ => .ok (Value.ofBool (Comparison.compare op left right))

/-- The value of an operator on one value. -/
def applyUnary (op : UnaryOp) (value prose : Text) : Text :=
  match op with
  | .negate => Number.text (-numberOrZero value)
  | .not => if readsAsLogical value then Value.ofBool (!isTruthy value) else prose

/-! ### Atoms -/

/-- The words of an atom in lower case; a string is no word. -/
def wordsOf (tokens : List Token) : List (Option Text) :=
  tokens.map fun t => if t.kind == .string then none else some (Text.lower t.value)

/-- The special forms. -/
inductive Special where
  | it | empty | true | false
  | date | time | width | height | target
  | cardCount | cardNumber | buttonCount | fieldCount
  deriving DecidableEq, Repr

/-- The words of each special form. -/
def Special.forms : List (List Text × Special) := [
  (["it"], it), (["empty"], empty), (["true"], true), (["false"], false),
  (["the", "date"], date), (["the", "time"], time),
  (["the", "width"], width), (["the", "height"], height),
  (["the", "card", "width"], width), (["the", "card", "height"], height),
  (["the", "target"], target),
  (["the", "number", "of", "cards"], cardCount),
  (["the", "number", "of", "this", "card"], cardNumber),
  (["the", "number", "of", "buttons"], buttonCount),
  (["the", "number", "of", "fields"], fieldCount)]

/-- The special form that the tokens of an atom are. -/
def Special.of? (tokens : List Token) : Option Special :=
  (forms.find? fun f => f.1.map some == wordsOf tokens).map Prod.snd

/-- How many objects of a kind are seen on the current card. -/
def countKind (v : View) (kind : Part.Kind) : Except Fault Text := do
  let parts ← v.scene.partsOn v.scene.current
  return Text.ofNat (parts.countP fun p => p.kind == kind)

/-- The value of a special form. -/
def Special.value (v : View) : Special → Except Fault Text
  | it => .ok v.bindings.registers.it
  | empty => .ok []
  | true => .ok (Value.ofBool .true)
  | false => .ok (Value.ofBool .false)
  | date => .ok v.surroundings.date
  | time => .ok v.surroundings.time
  | width => (Quantity.int v.scene.stack.cardSize.width).coordinate
  | height => (Quantity.int v.scene.stack.cardSize.height).coordinate
  | target => .ok (v.bindings.context.origin.getD [])
  | cardCount => .ok (Text.ofNat v.scene.cards.length)
  | cardNumber => .ok (Text.ofNat (v.scene.current + 1))
  | buttonCount => countKind v .button
  | fieldCount => countKind v .field

/-- The bound of a `random N` atom: a number, or a variable that holds one. -/
def randomBound? (v : View) (tokens : List Token) : Option Float :=
  match tokens with
  | [first, bound] =>
    if first.kind != .string && Text.lower first.value == "random" then
      let written := if bound.kind == .number then Number.leading? bound.value else none
      written.or (Number.leading? ((v.bindings.lookup? bound.value).getD []))
    else none
  | _ => none

/-- The number of the card at a position: cards that agree in everything share the number
of the first. -/
def cardNumber (s : Scene) (i : Nat) : Nat :=
  match s.cards[i]? with
  | none => i + 1
  | some c => (s.cards.take i).findIdx c.same + 1

/-- The property name and the text of the target in `the PROPERTY of TARGET`. -/
def propertyForm? (text : Text) (tokens : List Token) : Option (Text × Text) :=
  match tokens with
  | the :: rest =>
    if !the.isWord "the" then none
    else
      let isOf := fun t : Token => t.kind != .string && Text.lower t.value == "of"
      match rest with
      | first :: more =>
        let names := first :: more.takeWhile fun t => !isOf t
        match more.dropWhile fun t => !isOf t with
        | _ :: target :: _ =>
          some (Text.joined " " (names.map Token.value), text.drop (target.start - the.start))
        | _ => none
      | [] => none
  | [] => none

/-- The value of a property of an entity; a property that it does not have is empty. -/
def propertyOf (v : View) (name : Text) (place : Place) : Except Fault Text := do
  match Text.lower name == "number", place with
  | .true, .card i => return Text.ofNat (cardNumber v.scene i)
  | _, _ =>
    match v.scene.entity? place with
    | some e => return (← e.property? name).getD []
    | none => return []

/-- The value of a `the PROPERTY of TARGET` atom, if there is such a target. -/
def propertyValue? (v : View) (text : Text) (tokens : List Token) :
    Except Fault (Option Text) := do
  match propertyForm? text tokens with
  | none => return none
  | some (name, target) =>
    match ← v.scene.resolveTarget v.bindings target with
    | some place => return some (← propertyOf v name place)
    | none => return none

/-- The value of the variable that an atom names, if it is one word. -/
def variableValue? (v : View) (tokens : List Token) : Option Text :=
  match tokens with
  | [t] => if t.kind == .word then v.bindings.lookup? t.value else none
  | _ => none

/-- The value of an atom. -/
def evalAtom (v : View) (text : Text) (tokens : List Token) : Except Fault Text :=
  if tokens.isEmpty then .ok text
  else
    match Special.of? tokens with
    | some special => special.value v
    | none =>
      match randomBound? v tokens with
      | some bound => Function.drawUpTo v.surroundings bound
      | none => do
        match ← propertyValue? v text tokens with
        | some value => return value
        | none => return (variableValue? v tokens).getD text

/-! ### Evaluation -/

/-- Whether a value is that of an atom that means nothing. -/
def isUnresolved (e : Expr) (value : Text) : Bool :=
  match e with
  | atom text _ => value == text
  | _ => false

mutual

/-- The value of an expression tree. -/
def eval (v : View) : Expr → Except Fault Text
  | literal value => .ok value
  | atom text tokens => evalAtom v text tokens
  | call name args => do Function.call v.surroundings name (← evalAll v args)
  | unary op operand text => do return applyUnary op (← eval v operand) text
  | binary op left right text => do
    let a ← eval v left
    let b ← eval v right
    applyBinary op a b text (isUnresolved left a)

/-- The values of several expressions, in order. -/
def evalAll (v : View) : List Expr → Except Fault (List Text)
  | [] => .ok []
  | e :: es => do
    let value ← eval v e
    return value :: (← evalAll v es)

end

/-- The value of the expression that a text is. -/
def evaluate (v : View) (source : Text) : Except Fault Text :=
  eval v (parse (Text.trim source))

end Expr

end CardTalk
