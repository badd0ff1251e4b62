/-
The presenter: what shows the scene and asks the user.

A silent presenter shows nothing; a console presenter writes the current card and all
messages as styled text.  Both take the user's replies from a list and dismiss a question
once it is used up.  Any call may fail, depending on everything that has happened before.
-/
import CardTalk.Event
import CardTalk.Scene.Basic
import CardTalk.Markup

namespace CardTalk

/-- What a console has shown. -/
structure Console where
  /-- The text written, latest piece first. -/
  written : List Text := []
  /-- The object to stand out in the next rendering. -/
  highlighted : Option Text := none

/-- A presenter. -/
structure Presenter where
  /-- The console to write to; without one the presenter is silent. -/
  console : Option Console
  /-- What the user will answer; nothing stands for a question that is dismissed. -/
  replies : List (Option Text)
  /-- Whether a call fails: the events so far are given, the call itself first. -/
  failure : List Event → Option Fault

namespace Console

/-- Writes a text as it is. -/
def write (c : Console) (t : Text) : Console := { c with written := t :: c.written }

/-- Writes a line of marked-up text. -/
def writeLine (c : Console) (t : Text) : Console := c.write (Markup.styled t ++ "\n")

/-- The line that describes an object. -/
def describe (c : Console) (p : Part) (animation : Option Text) : Text :=
  let mark := if c.highlighted = some p.id then Markup.written "reverse" else []
  let shown := match p.body with
    | .button title _ textColor .. =>
      Markup.inStyle (("fg:" : Text) ++ textColor) (("[ " : Text) ++ title ++ " ]")
    | .field content _ textColor .. =>
      p.name ++ ": " ++ Markup.inStyle (("fg:" : Text) ++ textColor) content
    | _ => ("<" : Text) ++ p.kind.name ++ " " ++ p.name ++ ">" ++ Markup.written "reset"
  let effect := match animation with
    | none | some [] => []
    | some name => ' ' :: Markup.inStyle "dim" ('~' :: name)
  ("  " : Text) ++ mark ++ shown ++ effect

/-- The line above the objects of a card. -/
def header (s : Scene) (card : Card) (transition : Option Text) : Text :=
  let position := Text.ofNat (s.current + 1) ++ '/' :: Text.ofNat s.cards.length
  let title := Markup.inStyle "bold" (("── " : Text) ++ card.name ++ " (" ++ position ++ ") ──")
  match transition with
  | none | some [] => title
  | some name => title ++ ' ' :: Markup.inStyle "dim" ('[' :: name ++ "]")

/-- Writes the current card, using up the pending effects of the scene. -/
def render (c : Console) (s : Scene) : Except Fault (Console × Scene) := do
  let ((transition, animations), s) := s.takeEffects
  let card ← s.currentCard
  let parts ← s.partsOn s.current
  let lines := (parts.filter Part.visible).map fun p => c.describe p (animations.get? p.id)
  return ({ (header s card transition :: lines).foldl writeLine c with highlighted := none }, s)

/-- The text written so far. -/
def output (c : Console) : Text := c.written.reverse.flatten

end Console

end CardTalk
