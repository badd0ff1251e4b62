/-
Commands that name what does not exist.

A command with a target looks the target up before it does anything, and a target that names
nothing leaves it with a warning to write and nothing else to do: no handler is run, and
nothing is shown, saved or changed (`execute_unresolved`).  What is looked up, and what it
means for a target to name something, is the same for every verb (`Scene.Names`).

A card that does not exist is not such a target, because the current card stands in for it.
Neither is an object whose kind is misspelled with letters that only read as those of its word:
there the command fails (`execute_misspelled`).
-/
import CardTalk.Proofs.Engine.Putting
import CardTalk.Proofs.Engine.Reporting
import CardTalk.Proofs.Scene.Target

namespace CardTalk

namespace Command

/-- The target of a command that has one. -/
def target? : Command → Option Text
  | set _ target _ => target
  | appear _ target => some target
  | animate target _ => some target
  | send _ target => target
  | _ => none

/-- The expression that a command with a target has beside it. -/
def value? : Command → Option Text
  | set _ _ value => some value
  | _ => none

/-- What the log is told about a target that is not found. -/
def complaint (target : Text) : Command → Text
  | set .. => ("set: could not find target " : Text) ++ Text.trim target
  | appear verb _ => verb ++ ": could not find " ++ Text.trim target
  | animate .. => ("animate: could not find " : Text) ++ Text.trim target
  | send .. => ("send: could not find " : Text) ++ Text.trim target
  | _ => []

end Command

namespace Engine

/-- The engine after a warning. -/
def warned (message : Text) (e : Engine) : Engine :=
  { e with trace := .log .warning message :: e.trace }

end Engine

namespace Handler

open Engine

variable {e : Engine} {c : Context} {card : Card} {t : Text}

/-- Looking a target up leaves no trace. -/
theorem target?_eq (t : Text) (e : Engine) (c : Context) :
    target? t (e, c) = .finished ((e.scene.resolveTarget ⟨e.registers, c⟩ t).map fun place? =>
      place?.bind fun place => (e.scene.entity? place).map fun x => (place, x)) (e, c) := by
  have htarget : target? t (e, c) = (Run.finished (e.scene.resolveTarget ⟨e.registers, c⟩ t)
      (e, c)).bind fun place? => pure (place?.bind fun place =>
        (e.scene.entity? place).map fun x => (place, x)) := rfl
  rw [htarget]
  cases e.scene.resolveTarget ⟨e.registers, c⟩ t with
  | ok place? => rfl
  | error f => rfl

/-- A target that names nothing is not found, unless it is a card with a name or its kind is
misspelled. -/
theorem target?_unresolved (hcard : e.scene.cards[e.scene.current]? = some card)
    (ht : ∀ name, Target.ofText t ≠ .card (some name))
    (hspelled : ∀ word, Target.ofText t ≠ .misspelled word)
    (hnames : ∀ place, ¬e.scene.Names card ⟨e.registers, c⟩ (Target.ofText t) place) :
    target? t (e, c) = .finished (.ok none) (e, c) := by
  rw [target?_eq, Scene.resolveTarget]
  rcases Scene.locate_cases hcard ht hspelled with ⟨place, -, hplace⟩ | ⟨hlocate, -⟩
  · exact absurd hplace (hnames place)
  · rw [hlocate]
    rfl

/-- Looking up an object of a misspelled kind fails. -/
theorem target?_misspelled {word : Text} (ht : Target.ofText t = .misspelled word) :
    target? t (e, c) = .finished (.error (.misspelledKind (Text.quoted word))) (e, c) := by
  rw [target?_eq, Scene.resolveTarget, ht]
  rfl

/-- How a command ends that gets no target: with a warning where the target is not found, and
with the fault where looking it up fails. -/
def targetless (message : Text) (outcome : Except Fault Unit) (e : Engine) (c : Context) :
    Run (Engine × Context) Unit :=
  match outcome with
  | .error f => .finished (.error f) (e, c)
  | .ok () => .finished (.ok ()) (warned message e, c)

/-- A command evaluates its expression, if it has one, before it looks its target up, and goes no
further without a target. -/
theorem perform_targetless (dispatch : Dispatch) (outcome : Except Fault Unit) {command : Command}
    (hcommand : command.target? = some t)
    (htarget : target? t (e, c) = .finished (outcome.map fun _ => none) (e, c)) :
    perform dispatch command (e, c) =
      match command.value?.mapM fun source =>
        Expr.evaluate ⟨e.scene, ⟨e.registers, c⟩, e.surroundings⟩ source with
      | .error f => .finished (.error f) (e, c)
      | .ok _ => targetless (command.complaint t) outcome e c := by
  cases command with
  | set property target value =>
      obtain rfl : target = some t := hcommand
      have hset : ∀ v, setOf property t v (e, c) =
          targetless (("set: could not find target " : Text) ++ Text.trim t) outcome e c := by
        intro v
        show (target? t (e, c)).bind _ = _
        rw [htarget]
        cases outcome <;> rfl
      have hperform : perform dispatch (.set property (some t) value) (e, c) =
          (evaluate value (e, c)).bind fun v => setOf property t (Color.expandTriple v) := rfl
      rw [hperform, evaluate_eq, Command.value?]
      cases hvalue : Expr.evaluate ⟨e.scene, ⟨e.registers, c⟩, e.surroundings⟩ value with
      | ok v =>
          rw [Option.mapM_some, hvalue]
          exact hset _
      | error f =>
          rw [Option.mapM_some, hvalue]
          rfl
  | appear verb target =>
      obtain rfl : target = t := Option.some.inj hcommand
      show (target? target (e, c)).bind _ = _
      rw [htarget]
      cases outcome <;> rfl
  | animate target effect =>
      obtain rfl : target = t := Option.some.inj hcommand
      show (target? target (e, c)).bind _ = _
      rw [htarget]
      cases outcome <;> rfl
  | send event target =>
      obtain rfl : target = some t := hcommand
      show (target? t (e, c)).bind _ = _
      rw [htarget]
      cases outcome <;> rfl
  | _ => exact nomatch hcommand

/-- A statement that is read as a command performs it. -/
theorem execute_ofStatement (dispatch : Dispatch) {statement : Text} {command : Command}
    (hstatement : Command.ofStatement? statement = some command) :
    execute dispatch statement (e, c) =
      (perform dispatch command (e, c)).bind fun _ => pure true := by
  rw [execute, hstatement]
  rfl

/-- A command whose target is of a misspelled kind fails and changes nothing. -/
theorem execute_misspelled (dispatch : Dispatch) {statement word : Text} {command : Command}
    (hstatement : Command.ofStatement? statement = some command)
    (hcommand : command.target? = some t) (ht : Target.ofText t = .misspelled word) :
    ∃ f, execute dispatch statement (e, c) = .finished (.error f) (e, c) := by
  rw [execute_ofStatement dispatch hstatement,
    perform_targetless dispatch (.error _) hcommand (target?_misspelled ht)]
  split
  · exact ⟨_, rfl⟩
  · exact ⟨_, rfl⟩

/-- **A command whose target names a background or an object that does not exist changes nothing.**
It runs no handler, leaves the whole engine and its own variables as they are and writes one
warning; only a `set` whose value cannot be evaluated fails before the target is looked up.
That goes for every statement that is read as such a command, and for every target that names
nothing: an object or a background with no such name or identifier where it is looked for, none
with the name that a variable holds, no background of the card, or an origin that is not
there.  A card that does not exist is not missed: the current card is meant in its place, unless
its number has too many digits to be read.  Nothing is said of an object whose kind is
misspelled. -/
theorem execute_unresolved (dispatch : Dispatch) {statement : Text} {command : Command}
    (hcard : e.scene.cards[e.scene.current]? = some card)
    (hstatement : Command.ofStatement? statement = some command) (ht : command.target? = some t)
    (hnames : ∀ place, ¬e.scene.Names card ⟨e.registers, c⟩ (Target.ofText t) place) :
    ((∀ name, Target.ofText t ≠ .card (some name)) →
      (∀ word, Target.ofText t ≠ .misspelled word) →
      (∀ source f, command.value? = some source →
        Expr.evaluate ⟨e.scene, ⟨e.registers, c⟩, e.surroundings⟩ source = .error f →
          execute dispatch statement (e, c) = .finished (.error f) (e, c)) ∧
      ((∀ source, command.value? = some source →
        ∃ v, Expr.evaluate ⟨e.scene, ⟨e.registers, c⟩, e.surroundings⟩ source = .ok v) →
          execute dispatch statement (e, c) =
            .finished (.ok true) (warned (command.complaint t) e, c))) ∧
    (∀ name, Target.ofText t = .card (some name) →
      e.scene.resolveTarget ⟨e.registers, c⟩ t = .ok (some (.card e.scene.current)) ∨
        ∃ f, Scene.askedNumber name = .error f ∧
          e.scene.resolveTarget ⟨e.registers, c⟩ t = .error f) := by
  refine ⟨fun hcardless hspelled => ?_, fun name hname => ?_⟩
  · have htarget := target?_unresolved hcard hcardless hspelled hnames
    rw [execute_ofStatement dispatch hstatement,
      perform_targetless dispatch (.ok ()) ht htarget]
    refine ⟨fun source f hsource hvalue => ?_, fun hvalue => ?_⟩
    · rw [hsource, Option.mapM_some, hvalue]
      rfl
    · cases hsource : command.value? with
      | none => rfl
      | some source =>
          obtain ⟨v, hv⟩ := hvalue source hsource
          rw [Option.mapM_some, hv]
          rfl
  · rw [Scene.resolveTarget, hname]
    rw [hname] at hnames
    rcases Scene.locate_card_cases hcard name with ⟨place, -, hplace⟩ | ⟨-, hlocate⟩ | hfault
    · exact absurd hplace (hnames place)
    · exact .inl hlocate
    · exact .inr hfault

/-- What hiding a field does whose name a variable holds, on a card with no fields. -/
theorem execute_unresolved_held :
    let c : Context := { locals := [(("note" : Text), ("Memo" : Text))] }
    execute (dispatchAt 1) "hide bg field note" (unheard, c) =
      .finished (.ok true) (warned "hide: could not find bg field note" unheard, c) := by
  intro c
  have hcurrent : unheard.scene.HasCurrent := by decide +kernel
  have hcard := List.getElem?_eq_getElem hcurrent
  have hobject : Target.ofText "bg field note" =
      .object (some .background) (some .field) "note" true := by decide +kernel
  have hcardless : ∀ name, Target.ofText "bg field note" ≠ .card (some name) := by
    rw [hobject]
    exact nofun
  have hspelled : ∀ word, Target.ofText "bg field note" ≠ .misspelled word := by
    rw [hobject]
    exact nofun
  have hlocate : unheard.scene.locate ⟨unheard.registers, c⟩ (Target.ofText "bg field note") =
      .ok none := by
    decide +kernel
  have hstatement : Command.ofStatement? "hide bg field note" =
      some (.appear "hide" "bg field note") := by decide +kernel
  exact ((execute_unresolved (dispatchAt 1) hcard hstatement rfl
    (Scene.not_names_of_locate hcard hlocate hcardless)).1 hcardless hspelled).2 nofun

/-- No card has the name, but the command renames the card the user is on. -/
theorem execute_missing_card :
    let statement : Text := "set the name of card \"Nowhere\" to \"X\""
    Command.ofStatement? statement = some (.set "the name" (some "card \"Nowhere\"") "\"X\"") ∧
      (∃ card, unheard.scene.cards[unheard.scene.current]? = some card ∧
        ∀ place, ¬unheard.scene.Names card ⟨unheard.registers, {}⟩
          (Target.ofText "card \"Nowhere\"") place) ∧
      (execute (dispatchAt 1) statement (unheard, {})).complete.2.1.scene.cards.map Card.name ≠
        unheard.scene.cards.map Card.name := by
  have hcurrent : unheard.scene.HasCurrent := by decide +kernel
  refine ⟨by decide +kernel, ⟨_, List.getElem?_eq_getElem hcurrent, fun place h => ?_⟩,
    by decide +kernel⟩
  have hcard : Target.ofText "card \"Nowhere\"" = .card (some "Nowhere") := by decide +kernel
  rw [hcard] at h
  cases h with
  | cardNumbered hname hdigits => exact absurd (hdigits 'N' List.mem_cons_self) (by decide)
  | cardNamed hcard hanswers =>
      have hno : ∀ card ∈ unheard.scene.cards, ¬card.answersTo "Nowhere" := by decide +kernel
      exact hno _ (List.mem_of_getElem? hcard) hanswers

end Handler

end CardTalk
