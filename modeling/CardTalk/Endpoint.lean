/-
What the engine answers over a network interface.

There are four requests: a summary of the current card, a text for the message box, an
event and the registers.  A message that fails for a reason that lies in the message is
rejected with the reason; any other failure is not an answer at all.
-/
import CardTalk.Engine.Agenda

namespace CardTalk.Endpoint

/-- An object in the summary of a card. -/
structure PartSummary where
  id : Text
  kind : Text
  name : Text
  layer : Text
  visible : Bool
  deriving DecidableEq

/-- The summary of the current card; its number is counted from one. -/
structure CardSummary where
  index : Nat
  count : Nat
  id : Text
  name : Text
  objects : List PartSummary
  deriving DecidableEq

/-- The summary of an object. -/
def summaryOf (p : Part) : PartSummary :=
  { id := p.id, name := p.name, kind := p.kind.name, layer := p.layer, visible := p.visible }

/-- The summary of the current card. -/
def card (s : Scene) : Except Fault CardSummary := do
  let c ← s.currentCard
  let parts ← s.partsOn s.current
  return { index := s.current + 1, count := s.cards.length, id := c.id, name := c.name
           objects := parts.map summaryOf }

/-- The answer to a message. -/
inductive Reply where
  | result (text it : Text)
  | rejected (detail : Text)
  deriving DecidableEq

/-- Whether the reason of a fault lies in the message. -/
def isRejected (f : Fault) : Bool :=
  f.kind ∈ [Fault.Kind.navigation, .hostScript, .value] || f matches .misspelledKind _

/-- Answers a message. -/
def message (source : Text) : Action Engine Reply := do
  match ← Action.attempt (Engine.message source) with
  | .ok text => return .result text (← get).registers.it
  | .error f => if isRejected f then return .rejected f.message else Action.fail f

/-- Posts an event; whether it was handled. -/
def event (name : Text) (origin : Option Text) (a : Agenda) : Except Fault Bool × Agenda :=
  a.post ⟨name, origin⟩

/-- The register `it` and the global variables. -/
def registers (e : Engine) : Registers := e.registers

/-- The words for a request that comes before there is an engine. -/
def notReady : Text := "Engine not ready"

end CardTalk.Endpoint
