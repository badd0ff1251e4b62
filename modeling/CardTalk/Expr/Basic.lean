/-
Expression trees.

An expression is a literal, an atom, a call or an operator applied to expressions.  An
atom is a run of words, strings and numbers that only the scene can give a meaning, such
as `the name of card 2`; it keeps its tokens for that and its text in case it has none.
Operator nodes keep the source text they cover, because an operator word between
operands of the wrong kind was prose all along.
-/
import CardTalk.Expr.Token

namespace CardTalk

/-- The operators with one operand. -/
inductive UnaryOp where
  | negate | not
  deriving DecidableEq, Repr

/-- The operators with two operands. -/
inductive BinaryOp where
  | or | and
  | join | joinSpaced
  | equal | unequal | unequalBang | less | greater | atMost | atLeast | is | isNot | contains
  | add | subtract
  | multiply | divide | modulo | quotient
  deriving DecidableEq, Repr

/-- How an operator is written. -/
def UnaryOp.symbol : UnaryOp → Text
  | negate => "-"
  | not => "not"

/-- How an operator is written. -/
def BinaryOp.symbol : BinaryOp → Text
  | or => "or"
  | and => "and"
  | join => "&"
  | joinSpaced => "&&"
  | equal => "="
  | unequal => "<>"
  | unequalBang => "!="
  | less => "<"
  | greater => ">"
  | atMost => "<="
  | atLeast => ">="
  | is => "is"
  | isNot => "is not"
  | contains => "contains"
  | add => "+"
  | subtract => "-"
  | multiply => "*"
  | divide => "/"
  | modulo => "mod"
  | quotient => "div"

/-- How tightly an operator binds: a larger level binds its operands more tightly. -/
def BinaryOp.level : BinaryOp → Nat
  | or => 0
  | and => 1
  | join | joinSpaced => 2
  | equal | unequal | unequalBang | less | greater | atMost | atLeast | is | isNot | contains => 3
  | add | subtract => 4
  | multiply | divide | modulo | quotient => 5

/-- All the operators with two operands. -/
def BinaryOp.all : List BinaryOp :=
  [or, and, join, joinSpaced, equal, unequal, unequalBang, less, greater, atMost, atLeast, is,
    isNot, contains, add, subtract, multiply, divide, modulo, quotient]

/-- The operator with the given spelling. -/
def BinaryOp.ofSymbol? (symbol : Text) : Option BinaryOp :=
  BinaryOp.all.find? fun op => op.symbol == symbol

/-- An expression. -/
inductive Expr where
  | literal (value : Text)
  | atom (text : Text) (tokens : List Token)
  | call (name : Text) (args : List Expr)
  | unary (op : UnaryOp) (operand : Expr) (text : Text)
  | binary (op : BinaryOp) (left right : Expr) (text : Text)

end CardTalk
