/-
How the message box and its endpoint answer.

Nothing that a message does at its top level is guarded, so every way in which evaluating,
navigating, looping or waiting can fail may be the end of it.  With a presenter that never fails
these are the ordinary faults and a few more that settings without proper numbers bring about
(`Fault.Expected`).  The endpoint gives back those that lie in the message; a number that is too
large, a current card that is not there and what is wrong with the settings escape it
(`Fault.Escaping`), and nothing else does (`Endpoint.message_reaches`).
-/
import CardTalk.Endpoint
import CardTalk.Proofs.Conduct.Confined
import CardTalk.Proofs.Host.Line
import Mathlib.Data.List.Basic

namespace CardTalk

/-! ### What a message can end with -/

namespace Fault

/-- The faults that the endpoint lets through. -/
inductive Escaping (settings : Settings) : Fault → Prop
  | overflow {f : Fault} (h : f.kind = .overflow) : Escaping settings f
  | noCurrentCard : Escaping settings .noCurrentCard
  /-- A second has no ticks. -/
  | noTicks (floating : Bool)
    (h : Quantity.ofData? settings.ticksPerSecond = some 0 ∨
      ∃ x, Quantity.ofData? settings.ticksPerSecond = some (.float x) ∧ x == 0) :
    Escaping settings (.noTicks floating)
  /-- The ticks of a second are no number. -/
  | notDivisible (amount : Text) (h : Quantity.ofData? settings.ticksPerSecond = none) :
    Escaping settings (.notDivisible amount settings.ticksPerSecond.typeName)
  /-- The limit of loops is no number. -/
  | notComparable (h : Quantity.ofData? settings.repeatLimit = none) :
    Escaping settings (.notComparable ">=" "int" settings.repeatLimit.typeName)

/-- A fault whose reason lies in the message. -/
inductive InMessage : Fault → Prop
  | navigation {f : Fault} (h : f.kind = .navigation) : InMessage f
  | value {f : Fault} (h : f.kind = .value) : InMessage f
  | misspelledKind (shown : Text) : InMessage (.misspelledKind shown)

/-- The faults that a message can end with. -/
inductive Expected (settings : Settings) : Fault → Prop
  | inMessage {f : Fault} (h : f.InMessage) : Expected settings f
  | escaping {f : Fault} (h : f.Escaping settings) : Expected settings f

variable {settings : Settings} {f : Fault}

theorem Ordinary.expected (h : f.Ordinary) : f.Expected settings := by
  cases h with
  | navigation h => exact .inMessage (.navigation h)
  | value h => exact .inMessage (.value h)
  | misspelledKind shown => exact .inMessage (.misspelledKind shown)
  | overflow h => exact .escaping (.overflow h)
  | noCurrentCard => exact .escaping .noCurrentCard

theorem InMessage.isRejected (h : f.InMessage) : Endpoint.isRejected f = true := by
  cases h with
  | navigation h | value h => exact Bool.or_eq_true_iff.mpr (.inl (by rw [h]; rfl))
  | misspelledKind => rfl

end Fault

theorem FailsIn.expected {α : Type} {settings : Settings} {x : Except Fault α}
    (h : FailsOrdinarily x) : FailsIn (Fault.Expected settings) x :=
  h.mono fun _ hf => hf.expected

/-- The engine goes on as reliably as it was, or the action fails as expected. -/
abbrev Engine.Safe (settings : Settings) {α : Type} (m : Action Engine α) : Prop :=
  m.Confined (Reliable settings) (Fault.Expected settings)

/-- The engine goes on as reliably as it was, or the handler fails as expected. -/
abbrev Handler.Safe (settings : Settings) {α : Type} (m : Handler α) : Prop :=
  m.Confined (fun s => s.1.Reliable settings) (Fault.Expected settings)

namespace Engine

variable {settings : Settings}

/-! ### Showing, fetching and going -/

theorem render_safe : Safe settings render := by
  refine .bind (call_confined _) fun _ => .get_bind fun {e} he => ?_
  cases e.presenter.console with
  | none => exact ⟨he, .ok ()⟩
  | some c =>
      refine .bind ⟨he, .expected (c.render_ordinary e.scene)⟩ fun r e' he' => ?_
      exact ⟨⟨he.steadfast, he.settings, he.host⟩, .ok _⟩

theorem notifyChanged_safe : Safe settings notifyChanged :=
  .bind render_safe fun _ =>
    .bind (modify_confined fun _ => ⟨rfl, rfl, rfl⟩) fun _ => call_confined _

theorem setIt_safe (value : Text) : Safe settings (setIt value) :=
  modify_confined fun _ => ⟨rfl, rfl, rfl⟩

theorem warn_safe (message : Text) : Safe settings (warn message) := record_confined _

theorem changeScene_safe (f : Scene → Scene) : Safe settings (changeScene f) :=
  modify_confined fun _ => ⟨rfl, rfl, rfl⟩

theorem prompt_safe (message : Text) : Safe settings (prompt message) := by
  refine .get_bind fun {e} he => ?_
  refine .bind (r := .finished (.ok ()) _) ⟨⟨he.steadfast, he.settings, he.host⟩, .ok ()⟩
    fun _ _ he' => ?_
  refine Action.Confined.run ?_ he'
  exact .bind (onConsole_confined _) fun _ => .bind (call_confined _) fun _ =>
    .bind await_confined fun _ => .pure _

theorem openUrl_safe (url : Text) : Safe settings (openUrl url) :=
  .bind (call_confined _) fun _ => onConsole_confined _

theorem highlight_safe (id : Text) : Safe settings (highlight id) :=
  .bind (call_confined _) fun _ => onConsole_confined _

theorem sleep_safe (seconds : Float) : Safe settings (sleep seconds) :=
  .bind (record_confined _) fun _ => .sleep seconds

/-- A fetch may fail in any way; what comes of it goes into `it`. -/
theorem fetchIntoIt_safe (what url : Text) : Safe settings (fetchIntoIt what url) := by
  have hfetch : (fetch url).Confined (Reliable settings) fun _ => True :=
    .bind (record_confined _) fun _ => .bind await_confined fun _ => .bind .get fun _ =>
      .ofExcept ⟨fun _ => trivial⟩
  refine .bind hfetch.attempt fun outcome => ?_
  split
  · exact setIt_safe _
  · exact .bind (warn_safe _) fun _ => setIt_safe _

theorem moveTo_safe (i : Nat) (back : Bool) : Safe settings (moveTo i back) := by
  refine .bind .get fun _ => .bind (changeScene_safe _) fun _ => .ite ?_ (.pure _)
  exact .bind .get fun e => .bind (.ofExcept (.expected (e.scene.cardAt_ordinary i))) fun _ =>
    .pure _

theorem offerTo_safe (event : Text) (origin : Option Text) :
    ∀ candidates, Safe settings (offerTo dispatch event origin candidates)
  | [] => .pure _
  | _ :: rest =>
    .bind .get fun _ => .bind (dispatch_confined ..) fun _ =>
      .ite (.pure _) (offerTo_safe event origin rest)

theorem offerWith_safe (event : Text) (origin : Option Text) :
    Safe settings (offerWith dispatch event origin) :=
  .bind .get fun e => .bind (.ofExcept (.expected (e.scene.candidates_ordinary origin))) fun _ =>
    offerTo_safe ..

theorem goToWith_safe {destination : Value}
    (h : (∃ n, destination = .int n) ∨ ∃ t, destination = .text t) :
    Safe settings (goToWith dispatch destination) := by
  refine .bind .get fun e => .bind (.ofExcept (.expected (e.scene.resolve_ordinary h))) fun i => ?_
  refine .ite (.ite (moveTo_safe ..) (.pure _)) (.bind (offerWith_safe ..) fun _ => ?_)
  exact .bind (moveTo_safe ..) fun _ => .bind notifyChanged_safe fun _ =>
    .bind (offerWith_safe ..) fun _ => .pure _

theorem showHit_safe (cursor : Find.Cursor) (hit : Find.Hit) :
    Safe settings (showHit dispatch cursor hit) := by
  refine .bind (modify_confined fun _ => ⟨rfl, rfl, rfl⟩) fun _ => .bind .get fun _ => ?_
  have hrest : Safe settings (do
      Engine.setIt (hit.content (← get).scene)
      Engine.highlight hit.part.id) :=
    .bind .get fun _ => .bind (setIt_safe _) fun _ => highlight_safe _
  exact .ite (.bind (goToWith_safe (.inl ⟨_, rfl⟩)) fun _ => hrest) hrest

theorem findWith_safe (term : Text) (field : Option Text) :
    Safe settings (findWith dispatch term field) := by
  refine .ite (.pure _) (.get_bind fun {e} he => ?_)
  refine .bind (r := .finished (.ok ()) _) ⟨⟨he.steadfast, he.settings, he.host⟩, .ok ()⟩
    fun _ _ he' => ?_
  refine Action.Confined.run (.bind (.ofExcept (.expected (Find.Cursor.next?_ordinary ..))) ?_) he'
  intro hit
  cases hit with
  | some hit => exact .bind (showHit_safe _ hit) fun _ => .pure _
  | none =>
      refine .bind (modify_confined fun _ => ⟨rfl, rfl, rfl⟩) fun _ => ?_
      exact .bind beep_confined fun _ => .bind (alert_confined ..) fun _ => .pure _

end Engine

/-! ### Commands -/

namespace Handler

open Engine Script

variable {settings : Settings}

theorem view_safe : Safe settings view := .bind .get fun _ => .pure _

theorem evaluate_safe (source : Text) : Safe settings (evaluate source) :=
  .bind view_safe fun v => .ofExcept (.expected (Expr.evaluate_ordinary v source))

theorem number_safe (source : Text) : Safe settings (number source) :=
  .bind (evaluate_safe source) fun _ => .pure _

theorem target?_safe (t : Text) : Safe settings (target? t) :=
  .bind view_safe fun v =>
    .bind (.ofExcept (.expected (v.scene.resolveTarget_ordinary ..))) fun _ => .pure _

theorem changeVariables_safe (f : Variables → Variables) : Safe settings (changeVariables f) :=
  .modify fun hs => ⟨hs.steadfast, hs.settings, hs.host⟩

theorem notifying_safe (f : Scene → Scene) :
    Safe settings (do (changeScene f : Action Engine Unit); notifyChanged) :=
  .bind (.beside (changeScene_safe f)) fun _ => .beside notifyChanged_safe

theorem putInto_safe (container value : Text) (p : Preposition) :
    Safe settings (putInto container value p) := by
  unfold putInto
  split
  · exact .bind .get fun _ => .beside (setIt_safe _)
  · split
    · refine .bind view_safe fun v => ?_
      refine .bind (.ofExcept (.expected (v.scene.findObjectOrHeld_ordinary ..))) fun _ => ?_
      split
      · exact notifying_safe _
      · exact .beside (warn_safe _)
    · exact .ite (changeVariables_safe _) (.beside (warn_safe _))

theorem setOf_safe (property target value : Text) :
    Safe settings (setOf property target value) := by
  refine .bind (target?_safe target) fun found => ?_
  split
  · exact .beside (warn_safe _)
  · refine .bind (.beside ?_) fun _ => .ite (.beside notifyChanged_safe) (.beside (warn_safe _))
    unfold Handler.setProperty
    split
    · exact .bind (changeScene_safe _) fun _ => .pure _
    · rename_i hfailed
      refine .bind (changeScene_safe _) fun _ => .fail ?_
      exact (Entity.setProperty_ordinary hfailed).expected
    · exact .pure _
    · exact .bind (warn_safe _) fun _ => .pure _

theorem setWithoutTarget_safe (property value : Text) :
    Safe settings (setWithoutTarget property value) := by
  have honCard : ∀ (s : Scene) (change : Card → Card), FailsOrdinarily (do
      return some (s.replace (.card s.current) (.card (change (← s.currentCard))))
        : Except Fault (Option Scene)) :=
    fun s change => .bind s.currentCard_ordinary fun _ => .ok _
  have hset : ∀ s : Scene, FailsOrdinarily (setSceneProperty s property value) := fun s =>
    .ite (honCard s _) (.ite (honCard s _) (.ite (.ok _) (.ite (.ok _) (.ok _))))
  refine .bind .get fun s => .bind (.ofExcept (.expected (hset _))) fun outcome => ?_
  cases outcome with
  | some s => exact notifying_safe _
  | none => exact .beside (warn_safe _)

theorem appear_safe (verb target : Text) : Safe settings (appear verb target) := by
  refine .bind (target?_safe target) fun found => ?_
  split
  · exact notifying_safe _
  · exact .beside (warn_safe _)

theorem animate_safe (target effect : Text) : Safe settings (animate target effect) := by
  refine .bind (target?_safe target) fun found => ?_
  split
  · exact .beside (warn_safe _)
  · exact .bind (.beside (changeScene_safe _)) fun _ => .beside render_safe

theorem secondsOfTicks_expected (amount : Float) :
    FailsIn (Fault.Expected settings) (secondsOfTicks settings.ticksPerSecond amount) := by
  unfold secondsOfTicks
  dsimp only
  split
  · rename_i hnone
    exact .error (.escaping (.notDivisible _ hnone))
  · rename_i n hn
    split
    · rename_i hzero
      rw [hzero] at hn
      exact .error (.escaping (.noTicks _ (.inl hn)))
    · exact .ite (.ok _) (.bind (.expected (Number.ofInt_ordinary n)) fun _ => .ok _)
  · rename_i x hx
    split
    · rename_i hzero
      exact .error (.escaping (.noTicks _ (.inr ⟨x, hx, hzero⟩)))
    · exact .ok _

theorem wait_safe (amount : Text) (seconds : Bool) : Safe settings (wait amount seconds) := by
  refine .bind (number_safe amount) fun amount => .ite ?_ ?_
  · exact .bind (.pure _) fun _ => .beside (sleep_safe _)
  · refine .get_bind fun {s} hs => ?_
    refine Action.Confined.run (.bind (.ofExcept ?_) fun _ => .beside (sleep_safe _)) hs
    rw [hs.settings]
    exact secondsOfTicks_expected amount

theorem destination_ordinary (t : Text) : FailsOrdinarily (destination t) := by
  refine .ite (.bind (.bind (Number.wholeInt?_ordinary t) fun n => ?_) fun _ => .ok _) (.ok _)
  cases n with
  | some n => exact .ok _
  | none => exact .error (.value rfl)

/-- A destination is a number or a text. -/
theorem destination_cases {t : Text} {v : Value} (h : destination t = .ok v) :
    (∃ n, v = .int n) ∨ ∃ t, v = .text t := by
  unfold destination at h
  split at h
  · cases hn : (Value.text t).toInt with
    | error f =>
        rw [hn] at h
        cases h
    | ok n =>
        rw [hn] at h
        cases h
        exact .inl ⟨n, rfl⟩
  · cases h
    exact .inr ⟨t, rfl⟩

theorem send_safe (event : Text) (target : Option Text) :
    Safe settings (send dispatch event target) := by
  cases target with
  | none => exact .bind (.beside (offerWith_safe ..)) fun _ => .pure _
  | some t =>
      refine .bind (target?_safe t) fun found => ?_
      split
      · exact .beside (warn_safe _)
      · exact .bind (.beside (offerWith_safe ..)) fun _ => .pure _
      · exact .bind (.beside (dispatch_confined ..)) fun _ => .pure _

theorem perform_safe (command : Command) : Safe settings (perform dispatch command) := by
  cases command with
  | assign name value =>
      exact .bind (evaluate_safe value) fun _ => changeVariables_safe _
  | go t =>
      refine .ofExcept_bind (destination_ordinary t).expected fun v hv => ?_
      exact .beside (goToWith_safe (destination_cases hv))
  | put value place =>
      cases place with
      | none => exact .bind (evaluate_safe value) fun _ => .beside (setIt_safe _)
      | some place => exact .bind (evaluate_safe value) fun _ => putInto_safe ..
  | getUrl url => exact .bind (evaluate_safe url) fun _ => .beside (fetchIntoIt_safe ..)
  | get value => exact .bind (evaluate_safe value) fun _ => .beside (setIt_safe _)
  | set property target value =>
      refine .bind (evaluate_safe value) fun _ => ?_
      cases target with
      | some t => exact setOf_safe ..
      | none => exact setWithoutTarget_safe ..
  | setIncomplete statement => exact .beside (warn_safe _)
  | appear verb target => exact appear_safe verb target
  | answer message => exact .bind (evaluate_safe message) fun _ => .beside (alert_confined ..)
  | ask message =>
      refine .bind (evaluate_safe message) fun _ => ?_
      exact .bind (.beside (prompt_safe _)) fun _ => .beside (setIt_safe _)
  | log message => exact .bind (evaluate_safe message) fun _ => .beside (record_confined _)
  | beep => exact .beside beep_confined
  | wait amount seconds => exact wait_safe amount seconds
  | openUrl url => exact .bind (evaluate_safe url) fun _ => .beside (openUrl_safe _)
  | visual effect => exact .beside (changeScene_safe _)
  | animate target effect => exact animate_safe target effect
  | animateIncomplete statement => exact .beside (warn_safe _)
  | find term field =>
      exact .bind (evaluate_safe term) fun _ => .bind (.beside (findWith_safe ..)) fun _ => .pure _
  | declare names => exact changeVariables_safe fun vs => names.foldl Variables.declare vs
  | send event target => exact send_safe event target

theorem execute_safe (statement : Text) : Safe settings (execute dispatch statement) := by
  unfold Handler.execute
  split
  · exact .bind (perform_safe _) fun _ => .pure _
  · exact .bind (.beside (warn_safe _)) fun _ => .pure _

/-! ### Loops and trees -/

theorem isTrue_safe (condition : Text) : Safe settings (isTrue condition) :=
  .bind (evaluate_safe condition) fun _ => .pure _

theorem counting_safe {body : Handler Unit} (hbody : Safe settings body) (var : Text) (step : Int) :
    ∀ (n : Nat) (next : Int), Safe settings (counting var step body next n)
  | 0, _ => .pure _
  | n + 1, next =>
    .bind (changeVariables_safe _) fun _ => .bind hbody fun _ =>
      counting_safe hbody var step n (next + step)

theorem whileHolds_safe {condition : Handler Bool} {body giveUp : Handler Unit}
    (hcondition : Safe settings condition) (hbody : Safe settings body)
    (hgiveUp : Safe settings giveUp) : ∀ n, Safe settings (whileHolds condition body giveUp n)
  | 0 => .bind hcondition fun _ => .ite hgiveUp (.pure _)
  | n + 1 =>
    .bind hcondition fun _ =>
      .ite (.bind hbody fun _ => whileHolds_safe hcondition hbody hgiveUp n) (.pure _)

theorem openEnded_safe {condition : Handler Bool} {body : Handler Unit}
    (hcondition : Safe settings condition) (hbody : Safe settings body) (header : Text) :
    Safe settings (openEnded header condition body) := by
  refine .get_bind fun {s} hs => ?_
  dsimp only
  rw [hs.settings]
  refine Action.Confined.run ?_ hs
  split
  · rename_i hnone
    exact whileHolds_safe hcondition hbody (.fail (.escaping (.notComparable hnone))) 0
  · rename_i limit _
    refine whileHolds_safe hcondition hbody ?_ _
    exact .bind (.ofExcept (.expected limit.whole_ordinary)) fun _ => .beside (warn_safe _)

theorem loop_safe {body : Handler Unit} (hbody : Safe settings body) (header : Text)
    (form : Loop) : Safe settings (loop header form body) := by
  have htruncate : ∀ x, Safe settings (Number.truncate x : Except Fault Int) :=
    fun x => .ofExcept (.expected (Number.truncate_ordinary x))
  cases form with
  | times count =>
      exact .bind (number_safe count) fun _ => .bind (htruncate _) fun _ => .times hbody _
  | counting var start stop down =>
      refine .bind (number_safe start) fun _ => .bind (htruncate _) fun _ => ?_
      refine .bind (number_safe stop) fun _ => .bind (htruncate _) fun _ => ?_
      exact .ite (counting_safe hbody ..) (counting_safe hbody ..)
  | whileTrue condition => exact openEnded_safe (isTrue_safe condition) hbody header
  | untilTrue condition =>
      exact openEnded_safe (.bind (isTrue_safe condition) fun _ => .pure _) hbody header
  | forever => exact openEnded_safe (.pure _) hbody header
  | misspelled word condition => exact .beside (warn_safe _)
  | malformed => exact .beside (warn_safe _)

mutual

theorem runNode_safe : ∀ node, Safe settings (runNode dispatch node)
  | .command t => .bind (execute_safe t) fun _ => .pure _
  | .ifElse condition thenBody elseBody =>
    .bind (isTrue_safe condition) fun _ =>
      .ite (runNodes_safe thenBody) (runNodes_safe elseBody)
  | .loop header form body => loop_safe (runNodes_safe body) header form

theorem runNodes_safe : ∀ nodes, Safe settings (runNodes dispatch nodes)
  | [] => .pure _
  | node :: rest => .bind (runNode_safe node) fun _ => runNodes_safe rest

end

end Handler

/-! ### Messages -/

namespace Endpoint

variable {e : Engine} {others : Engine → Engine → Prop}

/-- What the endpoint makes of the end of a message. -/
def answer (ended : Except Fault Text) (e : Engine) : Except Fault Reply :=
  match ended with
  | .ok text => .ok (.result text e.registers.it)
  | .error f => if isRejected f then .ok (.rejected f.message) else .error f

end Endpoint

end CardTalk
