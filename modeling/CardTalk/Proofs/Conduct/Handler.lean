/-
Commands and the trees they stand in follow every fair conduct.

A handler has a context of its own beside the engine, about which a conduct of the engine
says nothing.  Commands are gone through one by one; the tree of a handler is an induction
over its nodes.
-/
import CardTalk.Proofs.Conduct.Engine
import CardTalk.Engine.Execute

namespace CardTalk.Handler

open Engine Script

variable {c : Conduct Engine} (hc : Fair c)

theorem view_follows : view.Follows (c.beside Context) := .bind .get fun _ => .pure _

theorem evaluate_follows (source : Text) : (evaluate source).Follows (c.beside Context) :=
  .bind view_follows fun _ => .ofExcept _

theorem number_follows (source : Text) : (number source).Follows (c.beside Context) :=
  .bind (evaluate_follows source) fun _ => .pure _

theorem target?_follows (t : Text) : (target? t).Follows (c.beside Context) :=
  .bind view_follows fun _ => .bind (.ofExcept _) fun _ => .pure _

/-- An entity that is found together with its place is where it was found. -/
theorem located_cases (s : Scene) (place? : Option Place) :
    let found := place?.bind fun place => (s.entity? place).map fun x => (place, x)
    found = none ∨ ∃ place x, found = some (place, x) ∧ s.entity? place = some x := by
  cases place? with
  | none => exact .inl rfl
  | some place =>
      rw [Option.bind_some]
      cases hx : s.entity? place with
      | none => exact .inl rfl
      | some x => exact .inr ⟨place, x, rfl, hx⟩

/-- What follows on the search for a target may rely on its being where it was found. -/
theorem target?_bind_follows {β : Type} (t : Text)
    {next : Option (Place × Entity) → Handler β}
    (hnone : (next none).Follows (c.beside Context))
    (hsome : ∀ {s : Engine × Context}, c.holds s.1 → ∀ place x,
      s.1.scene.entity? place = some x →
        (next (some (place, x)) s).Follows (c.beside Context) s) :
    (target? t >>= next).Follows (c.beside Context) := by
  simp only [target?, view, bind_assoc, pure_bind]
  refine .get_bind fun {s} hs => .ofExcept_bind hs fun place? _ => ?_
  obtain hfound | ⟨place, x, hfound, hx⟩ := located_cases s.1.scene place?
  · rw [hfound]
    exact hnone.run hs
  · rw [hfound]
    exact hsome hs place x hx

/-- Setting a property without a target changes one entity. -/
theorem setSceneProperty_change {s s' : Scene} {property value : Text}
    (h : setSceneProperty s property value = .ok (some s')) : s.Change s' := by
  have onCard : ∀ f : Card → Card, (∀ card, (Entity.card card).Written (.card (f card))) → (do
      return some (s.replace (.card s.current) (.card (f (← s.currentCard))))
        : Except Fault (Option Scene)) = .ok (some s') → s.Change s' := by
    intro f hwritten hf
    cases hcard : s.cards[s.current]? with
    | none => simp [Scene.currentCard, Scene.cardAt, hcard, bind, Except.bind] at hf
    | some card =>
        simp only [Scene.currentCard, Scene.cardAt, hcard, bind, Except.bind, pure, Except.pure,
          Except.ok.injEq, Option.some.injEq] at hf
        have hentity : s.entity? (.card s.current) = some (.card card) := by
          rw [Scene.entity?, hcard, Option.map_some]
        exact hf ▸ .replace hentity (hwritten card)
  have onStack : ∀ stack : Stack, (Entity.stack s.stack).Written (.stack stack) →
      (return some { s with stack } : Except Fault (Option Scene)) = .ok (some s') →
      s.Change s' := by
    intro stack hwritten hs
    have hentity : s.entity? .stack = some (.stack s.stack) := rfl
    exact Option.some.inj (Except.ok.inj hs) ▸ .replace hentity hwritten
  unfold setSceneProperty at h
  dsimp only at h
  split at h
  · exact onCard _ (fun card => .cardColor card value) h
  · split at h
    · exact onCard _ (fun card => .cardName card value) h
    · split at h
      · exact onStack _ (.backdropColor s.stack value) h
      · split at h
        · exact onStack _ (.patternColor s.stack value) h
        · cases h

include hc

theorem changeVariables_follows (f : Variables → Variables) :
    (changeVariables f).Follows (c.beside Context) :=
  .modify fun hs => hc.does hs (.registers _)

/-- A change obeys the conduct when it is shown and saved. -/
theorem change_follows {s : Engine × Context} (hs : c.holds s.1) {scene : Scene}
    (h : s.1.scene.Change scene) :
    ((liftM notifyChanged : Handler Unit) ({ s.1 with scene }, s.2)).Follows
      (c.beside Context) s := (hc.change hs h).beside s.2

theorem putIntoField_follows (layer : Option Layer) (name value : Text) (p : Preposition) :
    (putIntoField layer name value p).Follows (c.beside Context) := by
  have hwarn : ∀ t, (liftM (warn t) : Handler Unit).Follows (c.beside Context) :=
    fun t => .beside (hc.warn t)
  simp only [putIntoField, view, bind_assoc, pure_bind]
  refine .get_bind fun {s} hs => .ofExcept_bind hs fun place? _ => ?_
  obtain hfound | ⟨place, x, hfound, hx⟩ := located_cases s.1.scene place?
  · rw [hfound]
    exact (hwarn _).run hs
  · rw [hfound]
    cases x with
    | part part => exact change_follows hc hs (.replace hx (.content part _))
    | _ => exact (hwarn _).run hs

theorem putInto_follows (container value : Text) (p : Preposition) :
    (putInto container value p).Follows (c.beside Context) := by
  unfold putInto
  split
  · exact .bind .get fun _ => .beside (hc.setIt _)
  · split
    · exact putIntoField_follows hc ..
    · exact .ite (changeVariables_follows hc _) (.beside (hc.warn _))

theorem setOf_follows (property target value : Text) :
    (setOf property target value).Follows (c.beside Context) := by
  have hwarn : ∀ t, (liftM (warn t) : Handler Unit).Follows (c.beside Context) :=
    fun t => .beside (hc.warn t)
  refine target?_bind_follows target (hwarn _) fun {s} hs place x hx => ?_
  dsimp only [Handler.setProperty]
  cases hchange : x.setProperty property value with
  | made y => exact change_follows hc hs (.replace hx (.property hchange))
  | failed y f => exact hc.does hs (.breakOff hx hchange)
  | refused => exact (hwarn _).run hs
  | readOnly name => exact (Action.Follows.bind (hwarn _) fun _ => hwarn _).run hs

theorem setWithoutTarget_follows (property value : Text) :
    (setWithoutTarget property value).Follows (c.beside Context) := by
  refine .get_bind fun {s} hs => .ofExcept_bind hs fun outcome h => ?_
  cases outcome with
  | some s' => exact change_follows hc hs (setSceneProperty_change h)
  | none => exact (Action.Follows.beside (hc.warn _)).run hs

theorem appear_follows (verb target : Text) :
    (appear verb target).Follows (c.beside Context) := by
  have hwarn : ∀ t, (liftM (warn t) : Handler Unit).Follows (c.beside Context) :=
    fun t => .beside (hc.warn t)
  refine target?_bind_follows target (hwarn _) fun {s} hs place x hx => ?_
  cases x with
  | part p => exact change_follows hc hs (.replace hx (.visible p _))
  | _ => exact (hwarn _).run hs

theorem animate_follows (target effect : Text) :
    (animate target effect).Follows (c.beside Context) := by
  refine .bind (target?_follows target) fun found => ?_
  split
  · exact .beside (hc.warn _)
  · exact .bind (.beside (hc.modify fun e => .effects e.scene.transition _)) fun _ =>
      .beside hc.render

theorem wait_follows (amount : Text) (seconds : Bool) :
    (wait amount seconds).Follows (c.beside Context) := by
  have hsleep := fun time => Action.Follows.beside (τ := Context) (hc.sleep time)
  refine .bind (number_follows amount) fun _ => .ite (.bind (.pure _) fun _ => hsleep _) ?_
  exact .bind .get fun _ => .bind (.ofExcept _) fun _ => hsleep _

variable {dispatch : Dispatch}
  (hd : ∀ event script origin, (dispatch event script origin).Follows c)

include hd

theorem send_follows (event : Text) (target : Option Text) :
    (send dispatch event target).Follows (c.beside Context) := by
  cases target with
  | none => exact .bind (.beside (Fair.offerWith hd ..)) fun _ => .pure _
  | some t =>
      refine .bind (target?_follows t) fun found => ?_
      split
      · exact .beside (hc.warn _)
      · exact .bind (.beside (Fair.offerWith hd ..)) fun _ => .pure _
      · exact .bind (.beside (hd ..)) fun _ => .pure _

theorem perform_follows (command : Command) :
    (perform dispatch command).Follows (c.beside Context) := by
  cases command with
  | assign name value =>
      exact .bind (evaluate_follows value) fun _ => changeVariables_follows hc _
  | go t => exact .bind (.ofExcept _) fun _ => .beside (hc.goToWith hd _)
  | put value place =>
      cases place with
      | none => exact .bind (evaluate_follows value) fun _ => .beside (hc.setIt _)
      | some place =>
          exact .bind (evaluate_follows value) fun _ => putInto_follows hc ..
  | getUrl url => exact .bind (evaluate_follows url) fun _ => .beside (hc.fetchIntoIt ..)
  | get value => exact .bind (evaluate_follows value) fun _ => .beside (hc.setIt _)
  | set property target value =>
      refine .bind (evaluate_follows value) fun _ => ?_
      cases target with
      | some t => exact setOf_follows hc ..
      | none => exact setWithoutTarget_follows hc ..
  | setIncomplete statement => exact .beside (hc.warn _)
  | appear verb target => exact appear_follows hc verb target
  | answer message => exact .bind (evaluate_follows message) fun _ => .beside (hc.alert ..)
  | ask message =>
      refine .bind (evaluate_follows message) fun _ => ?_
      exact .bind (.beside (hc.prompt _)) fun _ => .beside (hc.setIt _)
  | log message => exact .bind (evaluate_follows message) fun _ => .beside (hc.log ..)
  | beep => exact .beside hc.beep
  | wait amount seconds => exact wait_follows hc amount seconds
  | openUrl url => exact .bind (evaluate_follows url) fun _ => .beside (hc.openUrl _)
  | visual effect => exact .beside (hc.modify fun e => .effects _ e.scene.animations)
  | animate target effect => exact animate_follows hc target effect
  | animateIncomplete statement => exact .beside (hc.warn _)
  | find term field =>
      refine .bind (evaluate_follows term) fun _ => ?_
      exact .bind (.beside (hc.findWith hd ..)) fun _ => .pure _
  | declare names => exact changeVariables_follows hc fun vs => names.foldl Variables.declare vs
  | send event target => exact send_follows hc hd event target

theorem execute_follows (statement : Text) :
    (execute dispatch statement).Follows (c.beside Context) := by
  unfold execute
  split
  · exact .bind (perform_follows hc hd _) fun _ => .pure _
  · exact .bind (.beside (hc.warn _)) fun _ => .pure _

/-! ### Loops and trees -/

omit hd in
theorem counting_follows {body : Handler Unit} (hbody : body.Follows (c.beside Context))
    (var : Text) (step next : Int) :
    ∀ n, (counting var step body next n).Follows (c.beside Context) := by
  intro n
  induction n generalizing next with
  | zero => exact .pure _
  | succ n ih =>
      exact .bind (changeVariables_follows hc _) fun _ => .bind hbody fun _ => ih (next + step)

omit hc hd in
theorem whileHolds_follows {condition : Handler Bool} {body giveUp : Handler Unit}
    (hcondition : condition.Follows (c.beside Context)) (hbody : body.Follows (c.beside Context))
    (hgiveUp : giveUp.Follows (c.beside Context)) :
    ∀ n, (whileHolds condition body giveUp n).Follows (c.beside Context) := by
  intro n
  induction n with
  | zero => exact .bind hcondition fun _ => .ite hgiveUp (.pure _)
  | succ n ih =>
      exact .bind hcondition fun _ => .ite (.bind hbody fun _ => ih) (.pure _)

omit hd in
theorem openEnded_follows {condition : Handler Bool} {body : Handler Unit}
    (hcondition : condition.Follows (c.beside Context)) (hbody : body.Follows (c.beside Context))
    (header : Text) : (openEnded header condition body).Follows (c.beside Context) := by
  refine .bind .get fun s => ?_
  dsimp only
  split
  · exact whileHolds_follows hcondition hbody (.fail _) 0
  · refine whileHolds_follows hcondition hbody ?_ _
    exact .bind (.ofExcept _) fun _ => .beside (hc.warn _)

omit hc hd in
theorem isTrue_follows (condition : Text) : (isTrue condition).Follows (c.beside Context) :=
  .bind (evaluate_follows condition) fun _ => .pure _

omit hd in
theorem loop_follows {body : Handler Unit} (hbody : body.Follows (c.beside Context))
    (header : Text) (form : Loop) : (loop header form body).Follows (c.beside Context) := by
  cases form with
  | times count =>
      exact .bind (number_follows count) fun _ => .bind (.ofExcept _) fun _ => .times hbody _
  | counting var start stop down =>
      refine .bind (number_follows start) fun _ => .bind (.ofExcept _) fun _ => ?_
      refine .bind (number_follows stop) fun _ => .bind (.ofExcept _) fun _ => ?_
      exact .ite (counting_follows hc hbody ..) (counting_follows hc hbody ..)
  | whileTrue condition => exact openEnded_follows hc (isTrue_follows condition) hbody header
  | untilTrue condition =>
      refine openEnded_follows hc ?_ hbody header
      exact .bind (isTrue_follows condition) fun _ => .pure _
  | forever => exact openEnded_follows hc (.pure _) hbody header
  | misspelled word condition => exact .beside (hc.warn _)
  | malformed => exact .beside (hc.warn _)

omit hc hd

mutual

theorem runNode_follows (hc : Fair c)
    (hd : ∀ event script origin, (dispatch event script origin).Follows c) :
    ∀ node, (runNode dispatch node).Follows (c.beside Context)
  | .command t => .bind (execute_follows hc hd t) fun _ => .pure _
  | .ifElse condition thenBody elseBody =>
    .bind (isTrue_follows condition) fun _ =>
      .ite (runNodes_follows hc hd thenBody) (runNodes_follows hc hd elseBody)
  | .loop header form body => loop_follows hc (runNodes_follows hc hd body) header form

theorem runNodes_follows (hc : Fair c)
    (hd : ∀ event script origin, (dispatch event script origin).Follows c) :
    ∀ nodes, (runNodes dispatch nodes).Follows (c.beside Context)
  | [] => .pure _
  | node :: rest => .bind (runNode_follows hc hd node) fun _ => runNodes_follows hc hd rest

end

theorem runStatements_follows (hc : Fair c)
    (hd : ∀ event script origin, (dispatch event script origin).Follows c)
    (statements : List Text) :
    (runStatements dispatch statements).Follows (c.beside Context) :=
  .bind (.forM (fun _ => .beside (hc.warn _)) _) fun _ => runNodes_follows hc hd _

end CardTalk.Handler
