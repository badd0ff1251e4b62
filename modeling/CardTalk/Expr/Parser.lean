/-
From tokens to an expression tree.

Binary operators are read level by level, each level a chain of operands of the next
tighter one joined to the left; the tightest operands are unary operators, parentheses,
calls and atoms.  Reading never fails: a missing operand is the empty literal, a missing
closing parenthesis is taken as read, and a text with tokens left over at the end is an
atom as a whole.

The functions recurse on fuel.  Between two tokens taken lie at most nine calls (one for
each level, two for an operand, one for a chain), which is what `fuelFor` allows for.
-/
import CardTalk.Expr.Basic

namespace CardTalk.Expr

/-- Where reading stands: the tokens left, and the end of the last token taken. -/
structure Cursor where
  rest : List Token
  last : Nat
  deriving DecidableEq, Repr

/-- The cursor after taking `token`, with `rest` to follow. -/
def Cursor.past (token : Token) (rest : List Token) : Cursor := ⟨rest, token.stop⟩

/-- The source between a position and the last token taken. -/
def Cursor.span (source : Text) (start : Nat) (c : Cursor) : Text :=
  (source.take c.last).drop start

/-- The place in the source where the next token starts. -/
def Cursor.start (source : Text) (c : Cursor) : Nat :=
  match c.rest with
  | [] => source.length
  | token :: _ => token.start

/-- The words that are operators between two operands. -/
def operatorWords : List Text := ["or", "and", "is", "contains", "mod", "div"]

/-- Whether the token is one of the operator words. -/
def isOperatorWord (token : Token) : Bool := operatorWords.any token.isWord

/-- The operator that a token is by itself. -/
def operatorOf? (token : Token) : Option BinaryOp :=
  if token.kind == .operator then BinaryOp.ofSymbol? token.value
  else if isOperatorWord token then BinaryOp.ofSymbol? (Text.lower token.value)
  else none

/-- The operator of a level that comes next, and the cursor after it: `is not` is one
operator of two tokens. -/
def operatorAt? (level : Nat) (c : Cursor) : Option (BinaryOp × Cursor) :=
  match c.rest with
  | [] => none
  | token :: rest =>
    match operatorOf? token with
    | none => none
    | some op =>
      if op.level ≠ level then none
      else
        match op, rest with
        | .is, second :: rest' =>
          if second.isWord "not" then some (.isNot, .past second rest')
          else some (.is, .past token rest)
        | _, _ => some (op, .past token rest)

/-- Whether a token may stand in an atom. -/
def inAtom (token : Token) : Bool :=
  token.kind == .word || token.kind == .string || token.kind == .number

/-- The tokens of an atom after its first: up to the next operator word or symbol. -/
def atomTail (rest : List Token) : List Token :=
  rest.takeWhile fun token => inAtom token && !isOperatorWord token

/-- An atom, or a literal when it is a single string or number. -/
def parseAtom (source : Text) (c : Cursor) : Expr × Cursor :=
  match c.rest with
  | [] => (.literal [], c)
  | token :: rest =>
    if !inAtom token then (.literal [], c)
    else
      let tail := atomTail rest
      let last := tail.getLast?.getD token
      let after := Cursor.past last (rest.drop tail.length)
      if tail.isEmpty && token.kind != .word then (.literal token.value, after)
      else (.atom (after.span source token.start) (token :: tail), after)

mutual

/-- An expression whose operators bind at least as tightly as `level`. -/
def parseLevel (source : Text) : Nat → Nat → Cursor → Expr × Cursor
  | 0, _, c => (.literal [], c)
  | fuel + 1, level, c =>
    if level < 6 then
      let (left, c') := parseLevel source fuel (level + 1) c
      parseChain source fuel level (c.start source) left c'
    else parseUnary source fuel c

/-- The rest of a chain of operators of one level, with what is read so far as `left`. -/
def parseChain (source : Text) : Nat → Nat → Nat → Expr → Cursor → Expr × Cursor
  | 0, _, _, left, c => (left, c)
  | fuel + 1, level, start, left, c =>
    match operatorAt? level c with
    | none => (left, c)
    | some (op, c') =>
      let (right, c'') := parseLevel source fuel (level + 1) c'
      parseChain source fuel level start (.binary op left right (c''.span source start)) c''

/-- An operand with its unary operators.  A `not` at the very end is a word. -/
def parseUnary (source : Text) : Nat → Cursor → Expr × Cursor
  | 0, c => (.literal [], c)
  | fuel + 1, c =>
    match c.rest with
    | [] => (.literal [], c)
    | token :: rest =>
      if token.isSymbol "-" then
        let (operand, c') := parseUnary source fuel (.past token rest)
        (.unary .negate operand (c'.span source token.start), c')
      else if token.isWord "not" && !rest.isEmpty then
        let (operand, c') := parseUnary source fuel (.past token rest)
        (.unary .not operand (c'.span source token.start), c')
      else parseOperand source fuel c

/-- A parenthesised expression, a call or an atom. -/
def parseOperand (source : Text) : Nat → Cursor → Expr × Cursor
  | 0, c => (.literal [], c)
  | fuel + 1, c =>
    match c.rest with
    | ⟨.open, _, _, stop⟩ :: rest =>
      let (inner, c') := parseLevel source fuel 0 ⟨rest, stop⟩
      match c'.rest with
      | ⟨.close, _, _, stop'⟩ :: rest' => (inner, ⟨rest', stop'⟩)
      | _ => (inner, c')
    | ⟨.word, name, _, _⟩ :: ⟨.open, _, _, stop⟩ :: rest =>
      match rest with
      | ⟨.close, _, _, stop'⟩ :: rest' => (.call name [], ⟨rest', stop'⟩)
      | _ =>
        let (args, c') := parseArgs source fuel ⟨rest, stop⟩
        (.call name args, c')
    | _ => parseAtom source c

/-- The arguments of a call up to its closing parenthesis. -/
def parseArgs (source : Text) : Nat → Cursor → List Expr × Cursor
  | 0, c => ([], c)
  | fuel + 1, c =>
    let (arg, c') := parseLevel source fuel 0 c
    match c'.rest with
    | ⟨.comma, _, _, stop⟩ :: rest =>
      let (args, c'') := parseArgs source fuel ⟨rest, stop⟩
      (arg :: args, c'')
    | ⟨.close, _, _, stop⟩ :: rest => ([arg], ⟨rest, stop⟩)
    | _ => ([arg], c')

end

/-- Enough fuel for a list of tokens. -/
def fuelFor (tokens : List Token) : Nat := 12 * tokens.length + 12

/-- The expression that a text is. -/
def parse (source : Text) : Expr :=
  let tokens := Token.scan source
  if tokens.isEmpty then .literal []
  else
    let (expr, c) := parseLevel source (fuelFor tokens) 0 ⟨tokens, 0⟩
    if c.rest.isEmpty then expr else .atom (Text.trim source) []

end CardTalk.Expr
