/-
What expressions and commands take from the world around them.

Scripts may draw a random number, ask for the date and the time, and fetch a text from a
network address.  All of that is given from outside, so that a run depends on nothing else.
-/
import CardTalk.Fault

namespace CardTalk

/-- The world around a run at one moment. -/
structure Surroundings where
  /-- Draws a whole number between two, both included. -/
  draw : (lowest highest : Int) → Int
  date : Text
  time : Text
  /-- The text behind a network address, or why there is none. -/
  fetch : (url : Text) → Except Fault Text

/-- Surroundings that give as little as they can. -/
def Surroundings.bare : Surroundings where
  draw lowest _ := lowest
  date := []
  time := []
  fetch _ := .ok []

end CardTalk
