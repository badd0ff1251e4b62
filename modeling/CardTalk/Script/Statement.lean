/-
The statements of a script.

A script is read line by line: a comment runs from two dashes outside quotes to the end
of the line, and what is left of a line, trimmed, is a statement unless it is empty.  A
script whose first line is the host marker is not read this way at all.
-/
import CardTalk.Quote
import CardTalk.Text.Lines

namespace CardTalk.Script

open Text

/-- The part of a line before its comment. -/
def beforeComment (line : Text) : Text := go none none line
where
  /-- `current` is the open quote and `previous` the character before. -/
  go (current previous : Option Char) : Text → Text
    | [] => []
    | c :: rest =>
      if current.isNone && c == '-' && rest.head? == some '-' then []
      else c :: go (Quote.after current previous c) (some c) rest

/-- The statement on a line, if there is one. -/
def statement? (line : Text) : Option Text :=
  let t := trim (beforeComment line)
  if t.isEmpty then none else some t

/-- The statements of a script, in order. -/
def statements (script : Text) : List Text := (lines script).filterMap statement?

/-- The first line that is not blank, trimmed. -/
def firstLine (script : Text) : Text :=
  (((lines script).map trim).find? fun line => !line.isEmpty).getD []

/-- Whether a script is in host mode: its first line is the marker. -/
def isHostMode (script marker : Text) : Bool := firstLine script == marker

end CardTalk.Script
