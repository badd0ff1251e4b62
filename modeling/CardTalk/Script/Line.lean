/-
The kinds of line that make up blocks.

A line opens or closes an `if` or a `repeat`, separates the two parts of an `if`, or is a
plain command.  A line has exactly one of these kinds, and nothing but the line decides
which.
-/
import CardTalk.Text.Search

namespace CardTalk.Script

open Search

/-- How a loop goes on. -/
inductive Loop where
  | times (count : Text)
  | counting (var start stop : Text) (down : Bool)
  | whileTrue (condition : Text)
  | untilTrue (condition : Text)
  /-- A word that reads as `while` or `until` but is spelled with other letters, which lower
  case does not make equal to theirs; such a loop is skipped. -/
  | misspelled (word condition : Text)
  | forever
  /-- A loop header of no known form; such a loop is skipped. -/
  | malformed
  deriving DecidableEq, Repr

/-- The kinds of line. -/
inductive Line where
  /-- `if … then`, with the command after `then`, empty if there is none. -/
  | opensIf (condition command : Text)
  /-- A line that starts with `if` but has no `then`. -/
  | malformedIf (text : Text)
  /-- `else`, with the command after it, empty if there is none. -/
  | isElse (command : Text)
  | endIf
  | opensRepeat (header : Text) (loop : Loop)
  | endRepeat
  | command (text : Text)
  deriving DecidableEq, Repr

namespace Loop

/-- The word `repeat` and the blanks after it. -/
def opening : Search Unit := do
  word "repeat"
  blanks1

/-- `repeat 3 times`, possibly with `for` before the count. -/
def timesForm : Search Loop := do
  opening
  let _ ← optional (do word "for"; blanks1)
  let (count, _) ← partUpTo do
    blanks1
    Search.or (word "times") (word "time")
    ending
  return times count

/-- `repeat with i = 1 to 10`, possibly with `down` before `to`. -/
def countingForm : Search Loop := do
  opening
  word "with"
  blanks1
  let var ← run1 Text.isWord
  blanks
  let _ ← oneOf (· == '=')
  blanks
  let (start, down) ← partUpTo do
    blanks1
    let down ← optional (do word "down"; blanks1)
    word "to"
    blanks1
    return down.isSome
  let stop ← rest1
  return counting var start stop down

/-- The loop with a condition that a word in lower case introduces. -/
def ofCondition (word condition : Text) : Loop :=
  if word = "while" then whileTrue condition
  else if word = "until" then untilTrue condition
  else misspelled word condition

/-- `repeat while …` and `repeat until …`. -/
def conditionForm : Search Loop := do
  opening
  let (form, _) ← span (Search.or (word "while") (word "until"))
  blanks1
  let condition ← rest1
  return ofCondition (Text.lower form) condition

/-- `repeat` alone and `repeat forever`. -/
def foreverForm : Search Loop := do
  word "repeat"
  let _ ← optional (do blanks1; word "forever")
  ending
  return forever

/-- `repeat 3`, the count being one word. -/
def countForm : Search Loop := do
  opening
  let _ ← optional (do word "for"; blanks1)
  let count ← run1 fun c => !Text.isBlank c
  ending
  return times count

/-- The loop that a header opens; the forms are tried in this order. -/
def ofHeader (header : Text) : Loop :=
  ([timesForm, countingForm, conditionForm, foreverForm, countForm].findSome?
    fun form => form.first? header).getD malformed

end Loop

namespace Line

/-- `if … then` and possibly a command: the condition ends before the first `then` that
blanks or the end of the line follow. -/
def ifForm : Search (Text × Text) := do
  word "if"
  blanks1
  let (condition, _) ← partUpTo (do blanks1; word "then")
  let command ← optional (do blanks1; rest)
  ending
  return (condition, Text.trim (command.getD []))

/-- The start of an `if`, complete or not. -/
def ifStart : Search Unit := do
  word "if"
  blanks1

/-- `else` and what follows it. -/
def elseForm : Search Text := do
  word "else"
  wordEnd
  blanks
  let command ← rest
  return Text.trim command

/-- `end` with the word for a block. -/
def endForm (block : Text) : Search Unit := do
  word "end"
  blanks1
  word block
  wordEnd

/-- The start of a loop header. -/
def repeatStart : Search Unit := do
  word "repeat"
  wordEnd

/-- The kind of a line. -/
def ofText (t : Text) : Line :=
  if ifStart.matches? t then
    match ifForm.first? t with
    | some (condition, inline) => opensIf condition inline
    | none => malformedIf t
  else if repeatStart.matches? t then opensRepeat t (Loop.ofHeader t)
  else
    match elseForm.first? t with
    | some inline => isElse inline
    | none =>
      if (endForm "if").matches? t then endIf
      else if (endForm "repeat").matches? t then endRepeat
      else .command t

/-- The warning that a line deserves. -/
def warning? : Line → Option Text
  | malformedIf t => some (("Malformed if (missing 'then'): " : Text) ++ t)
  | opensRepeat header .malformed => some (("Malformed repeat: " : Text) ++ header)
  | _ => none

end Line

end CardTalk.Script
