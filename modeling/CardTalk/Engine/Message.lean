/-
The message box.

What the user types is evaluated if it reads as an expression and carried out otherwise.
A text that is a command in form, or starts like a block, is always carried out.
-/
import CardTalk.Engine.Dispatch

namespace CardTalk

namespace Message

open Search

/-- The start of a block. -/
def blockStart : Search Unit := do
  Search.or (word "if") (word "repeat")
  wordEnd

/-- A text between two quotes `q` without such quotes inside. -/
def quoted (q : Char) : Search Unit := do
  let _ ← oneOf (· == q)
  let _ ← run (· != q)
  let _ ← oneOf (· == q)

/-- The start of an expression: `the`, a digit or a string, or `it` as a whole. -/
def expressionStart : Search Unit :=
  Search.or (do word "the"; let _ ← oneOf Text.isBlank)
    (Search.or (do word "it"; ending)
      (Search.or (do let _ ← oneOf Text.isDecimal)
        (Search.or (quoted '"') (quoted '\''))))

/-- The characters that make a text an expression. -/
def operatorCharacters : List Char := ['+', '-', '*', '/', '&']

/-- Whether a trimmed text is carried out and not evaluated. -/
def isCommand (t : Text) : Bool := blockStart.matches? t || Command.recognizes t

/-- Whether a trimmed text reads as an expression. -/
def isExpression (t : Text) : Bool :=
  !isCommand t && (expressionStart.matches? t || t.any (· ∈ operatorCharacters))

end Message

namespace Engine

/-- The value of an expression outside of any handler. -/
def evaluate (source : Text) : Action Engine Text := Action.within {} (Handler.evaluate source)

/-- Carries out statements outside of any handler. -/
def execute (source : Text) : Action Engine Unit :=
  Action.within {} (Handler.runStatements dispatch (Script.statements source))

/-- Answers what the user typed into the message box. -/
def message (source : Text) : Action Engine Text := do
  let t := Text.trim source
  if t.isEmpty then return []
  else if Message.isExpression t then evaluate t
  else
    execute t
    let it := (← get).registers.it
    return if it.isEmpty then "(done)" else it

end Engine

end CardTalk
