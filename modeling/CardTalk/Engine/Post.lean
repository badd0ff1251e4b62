/-
Events from the user interface.

Events are posted as they come.  If the settings say so, events of one source, which is an
object or the card, wait for each other; events of different sources take turns.
-/
import CardTalk.Engine.Dispatch
import CardTalk.Engine.Pool

namespace CardTalk

/-- A posted event. -/
structure Post where
  event : Text
  origin : Option Text
  deriving DecidableEq

/-- The source of an event: the object it comes from, or the card. -/
def Post.source (p : Post) : Text :=
  match p.origin with
  | none | some [] => "card"
  | some id => id

/-- Adds a posted event to those in progress. -/
def Post.addTo (p : Post) (pool : Pool Engine Bool) : Pool Engine Bool :=
  match pool.state.settings.serializeEvents with
  | .ok serialize =>
    pool.post (if serialize then some p.source else none) (Engine.offer p.event p.origin)
  | .error f => pool.post none (Action.fail f)

end CardTalk
