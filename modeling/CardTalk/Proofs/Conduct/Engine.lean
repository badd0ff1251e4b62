/-
What the engine may do between two sleeps, and the conducts it obeys.

Most of what operations do to the cards is shown and saved at once, so a lawful conduct is
asked about such a change only together with the notification after it: in between it need
not hold.  `Engine.Aside` lists everything else that operations do, one change at a time; a
conduct that admits these is open, and calls that reach outside follow it.  A move goes to a
position that was looked up some time ago, since handlers have run in the meantime.  Every
operation of the engine follows every lawful conduct, so an invariant of the engine is
proved by looking at these few laws.

What host-mode scripts do is up to their runtime, so a lawful conduct also has to say to which
scope the runtime keeps, and to admit everything in it (`Engine.Hosted`).

Only idle ticks note whether a pass is in progress.  A conduct that does not let this change
is quiet instead of open and fair instead of lawful, and everything but an idle tick follows
it still; so the lemmas here are about fair conducts.

This file goes through the calls that reach outside and through navigation, with the
dispatch of scripts as a parameter.
-/
import CardTalk.Proofs.Conduct.Basic
import CardTalk.Proofs.Host.Scope
import CardTalk.Proofs.Scene.Navigation
import CardTalk.Engine.Navigation
import CardTalk.Scene.Property

namespace CardTalk

/-! ### Changes of the scene -/

/-- What a command makes of an entity. -/
inductive Entity.Written : Entity → Entity → Prop
  | property {x y : Entity} {name value : Text} (h : x.setProperty name value = .made y) :
      Written x y
  | content (p : Part) (content : Text) : Written (.part p) (.part (p.withContent content))
  | visible (p : Part) (visible : Bool) : Written (.part p) (.part { p with visible })
  | cardColor (c : Card) (color : Text) :
      Written (.card c) (.card { c with backgroundColor := some color })
  | cardName (c : Card) (name : Text) : Written (.card c) (.card { c with name })
  | backdropColor (s : Stack) (color : Text) :
      Written (.stack s) (.stack { s with backdropColor := color })
  | patternColor (s : Stack) (color : Text) :
      Written (.stack s) (.stack { s with patternColor := color })

/-- What an operation makes of the scene before it shows and saves it. -/
inductive Scene.Change (s : Scene) : Scene → Prop
  | replace {place : Place} {x y : Entity} (h : s.entity? place = some x) (hy : x.Written y) :
      Change s (s.replace place y)
  | add {name : Option Text} {s' : Scene} (h : s.addCard name = .ok s') : Change s s'
  | delete {s' : Scene} (h : s.deleteCard = .ok (some s')) : Change s s'

namespace Engine

/-- The single changes that operations make without showing and saving the scene after them.
To these belong an attempt to set a property that breaks off, and going back to the card
where the user is already. -/
inductive Aside (e : Engine) : Engine → Prop
  | trace (x : Event) : Aside e { e with trace := x :: e.trace }
  | show (console : Option Console) (replies : List (Option Text)) :
      Aside e { e with presenter := { e.presenter with console, replies } }
  | save : Aside e { e with saved := e.scene }
  | registers (r : Registers) : Aside e { e with registers := r }
  | cursor (c : Find.Cursor) : Aside e { e with cursor := c }
  | idling (b : Bool) : Aside e { e with idling := b }
  | effects (transition : Option Text) (animations : Table Text) :
      Aside e { e with scene := { e.scene with transition, animations } }
  | breakOff {place : Place} {x y : Entity} {name value : Text} {f : Fault}
      (h : e.scene.entity? place = some x) (hx : x.setProperty name value = .failed y f) :
      Aside e { e with scene := e.scene.replace place y }
  | stay {destination : Value} (h : e.scene.resolve destination = .ok e.scene.current) :
      Aside e { e with scene := e.scene.moveTo e.scene.current true }

/-- Drawing the scene uses up its effects. -/
theorem console_render {console console' : Console} {s s' : Scene}
    (h : console.render s = .ok (console', s')) :
    s' = { s with transition := none, animations := [] } := by
  simp only [Console.render, Scene.takeEffects, bind, Except.bind] at h
  split at h
  · exact nomatch h
  · split at h
    · exact nomatch h
    · exact (Prod.mk.inj (Except.ok.inj h)).2.symm

theorem await_follows (c : Conduct Engine) : await.Follows c :=
  .bind .get fun _ => .ite (.sleep 0) (.pure _)

/-- A conduct that admits what is neither shown nor saved. -/
structure Open (c : Conduct Engine) : Prop where
  aside : ∀ {e e' : Engine}, c.holds e → Aside e e' → c.leads e e'
  free : ∀ e e', c.leaves e e' := by exact fun _ _ => trivial

theorem Open.does {c : Conduct Engine} (hc : Open c) {e e' : Engine} (he : c.holds e)
    (h : Aside e e') : c.Does e e' := ⟨hc.aside he h, hc.free e e'⟩

/-- A conduct that admits what is neither shown nor saved, except for noting whether an idle
pass is in progress. -/
structure Quiet (c : Conduct Engine) : Prop where
  aside : ∀ {e e' : Engine}, c.holds e → Aside e e' → e'.idling = e.idling → c.Does e e'

theorem Open.quiet {c : Conduct Engine} (hc : Open c) : Quiet c :=
  ⟨fun he h _ => hc.does he h⟩

namespace Quiet

variable {c : Conduct Engine} (hc : Quiet c)

include hc

theorem does {e e' : Engine} (he : c.holds e) (h : Aside e e')
    (hidling : e'.idling = e.idling := by rfl) : c.Does e e' := hc.aside he h hidling

theorem modify {f : Engine → Engine} (h : ∀ e, Aside e (f e))
    (hidling : ∀ e, (f e).idling = e.idling := by exact fun _ => rfl) :
    (modify f : Action Engine PUnit).Follows c :=
  .modify fun he => hc.does he (h _) (hidling _)

theorem record (x : Event) : (record x).Follows c := hc.modify fun _ => .trace x

theorem call (x : Event) : (call x).Follows c := by
  unfold Engine.call
  refine .bind (hc.record x) fun _ => .bind .get fun s => ?_
  split
  · exact .fail _
  · exact .pure _

theorem onConsole (f : Console → Console) : (onConsole f).Follows c :=
  hc.modify fun e => .show (e.presenter.console.map f) e.presenter.replies

theorem render : render.Follows c := by
  unfold Engine.render
  refine .bind (hc.call _) fun _ => .get_bind fun {e} he => ?_
  cases hconsole : e.presenter.console with
  | none => exact Conduct.does_refl he
  | some console =>
      refine .ofExcept_bind he fun ⟨console', s'⟩ hr => ?_
      obtain rfl := console_render hr
      have hshow := hc.does he (.show (some console') e.presenter.replies)
      exact hshow.trans (hc.does (c.stable hshow.1 he) (.effects none []))

theorem requestSave : requestSave.Follows c :=
  .bind (hc.modify fun _ => .save) fun _ => hc.call _

theorem notifyChanged : notifyChanged.Follows c := .bind hc.render fun _ => hc.requestSave

theorem beep : beep.Follows c :=
  .bind (.attempt (.bind (hc.call _) fun _ => hc.onConsole _)) fun _ => .pure _

theorem alert (title message : Text) : (alert title message).Follows c :=
  .bind (hc.call _) fun _ => .bind (hc.onConsole _) fun _ => await_follows c

theorem prompt (message : Text) : (prompt message).Follows c := by
  refine .get_bind fun {e} he => ?_
  refine .set_bind he (hc.does he (.show e.presenter.console _)) ?_
  refine .bind (hc.onConsole _) fun _ => .bind (hc.call _) fun _ => ?_
  exact .bind (await_follows c) fun _ => .pure _

theorem openUrl (url : Text) : (openUrl url).Follows c :=
  .bind (hc.call _) fun _ => hc.onConsole _

theorem highlight (id : Text) : (highlight id).Follows c :=
  .bind (hc.call _) fun _ => hc.onConsole _

theorem sleep (seconds : Float) : (sleep seconds).Follows c :=
  .bind (hc.record _) fun _ => .sleep seconds

theorem fetch (url : Text) : (fetch url).Follows c :=
  .bind (hc.record _) fun _ => .bind (await_follows c) fun _ => .bind .get fun _ => .ofExcept _

theorem log (severity : Severity) (message : Text) : (log severity message).Follows c :=
  hc.record _

theorem warn (message : Text) : (warn message).Follows c := hc.record _

theorem setIt (value : Text) : (setIt value).Follows c := hc.modify fun _ => .registers _

theorem fetchIntoIt (what url : Text) : (fetchIntoIt what url).Follows c := by
  refine .bind (.attempt (hc.fetch url)) fun outcome => ?_
  split
  · exact hc.setIt _
  · exact .bind (hc.warn _) fun _ => hc.setIt _

end Quiet

/-- A conduct that admits what runs of host-mode scripts do, which keep to a scope; contexts are
opened for them of a certain kind. -/
structure Hosts (c : Conduct Engine) (scope : Host.Scope) (opened : Nat → Prop) : Prop where
  calls : ∀ {context}, opened context → scope.calls context
  opens : ∀ {e}, c.holds e →
    opened e.hostNotes.length ∧ c.Does e { e with hostNotes := e.hostNotes ++ [[]] }
  note : ∀ {e context}, c.holds e → scope.calls context →
    ∀ d, c.Does e { e with hostNotes := e.hostNotes.modify context (· ++ [d]) }
  forget : ∀ {e context}, c.holds e → opened context →
    c.Does e { e with hostNotes := e.hostNotes.modify context fun _ => [] }
  memory : ∀ {e}, c.holds e → ∀ m, c.Does e { e with hostMemory := m }
  keeps : ∀ {e context}, c.holds e → opened context → ∀ script event origin,
    (e.world.host e.trace (e.hostMemory.given context event origin) script).Within scope
  writes : ∀ {e change}, c.holds e → scope.writes change →
    ∀ r, c.Does e { e with scene := e.scene.rewrite r change }
  reaches : ∀ {e : Engine}, c.holds e → scope.reaches → ∀ interior events,
    c.Does e { e with toInterior := interior, trace := events ++ e.trace }

/-- A conduct that admits what runs of host-mode scripts do. -/
def Hosted (c : Conduct Engine) : Prop := ∃ scope opened, Hosts c scope opened

/-- It is enough to admit whatever is noted and whatever becomes of the memory, if the runtime
keeps to a scope in which every context may be called. -/
theorem Hosted.of_keeps {c : Conduct Engine} (scope : Host.Scope) (hcalls : ∀ k, scope.calls k)
    (hnoted : ∀ {e}, c.holds e → ∀ hostMemory hostNotes,
      c.Does e { e with hostMemory, hostNotes })
    (hkeeps : ∀ {e}, c.holds e → e.world.host.Keeps scope)
    (hwrites : ∀ {e change}, c.holds e → scope.writes change →
      ∀ r, c.Does e { e with scene := e.scene.rewrite r change })
    (hreaches : ∀ {e : Engine}, c.holds e → scope.reaches → ∀ interior events,
      c.Does e { e with toInterior := interior, trace := events ++ e.trace }) : Hosted c :=
  ⟨scope, fun _ => True, {
    calls := fun _ => hcalls _
    opens := fun he => ⟨trivial, hnoted he _ _⟩
    note := fun he _ _ => hnoted he _ _
    forget := fun he _ => hnoted he _ _
    memory := fun he _ => hnoted he _ _
    keeps := fun he _ _ _ _ => hkeeps he ..
    writes := hwrites
    reaches := hreaches }⟩

/-- A conduct that admits as well what is shown and saved, once it is. -/
structure Lawful (c : Conduct Engine) : Prop extends Open c where
  hosted : Hosted c
  change : ∀ {e : Engine} {s : Scene}, c.holds e → e.scene.Change s →
    (notifyChanged { e with scene := s }).Follows c e
  move : ∀ {e e' : Engine} {destination : Value} {i : Nat} (back : Bool), c.holds e →
    e.scene.resolve destination = .ok i → c.leads e e' →
    ((do moveTo i back; notifyChanged) e').Follows c e'

/-- A quiet conduct that admits as well what is shown and saved, once it is. -/
structure Fair (c : Conduct Engine) : Prop extends Quiet c where
  hosted : Hosted c
  change : ∀ {e : Engine} {s : Scene}, c.holds e → e.scene.Change s →
    (notifyChanged { e with scene := s }).Follows c e
  move : ∀ {e e' : Engine} {destination : Value} {i : Nat} (back : Bool), c.holds e →
    e.scene.resolve destination = .ok i → c.leads e e' →
    ((do moveTo i back; notifyChanged) e').Follows c e'

theorem Lawful.fair {c : Conduct Engine} (hc : Lawful c) : Fair c :=
  ⟨hc.quiet, hc.hosted, hc.change, hc.move⟩

/-- A conduct that admits every single change, whether or not it is shown and saved. -/
structure Stepwise (c : Conduct Engine) : Prop extends Open c where
  hosted : Hosted c
  change : ∀ {e : Engine} {s : Scene}, c.holds e → e.scene.Change s →
    c.leads e { e with scene := s }
  move : ∀ {e e' : Engine} {destination : Value} {i : Nat} (back : Bool), c.holds e →
    e.scene.resolve destination = .ok i → c.leads e e' →
    c.leads e' { e' with scene := e'.scene.moveTo i back }

theorem Stepwise.lawful {c : Conduct Engine} (hc : Stepwise c) : Lawful c where
  toOpen := hc.toOpen
  hosted := hc.hosted
  change {e s} he hs := by
    have hchange := hc.change he hs
    exact .after ⟨hchange, hc.free ..⟩ (hc.quiet.notifyChanged.run (c.stable hchange he))
  move {e e' destination i} back he hi hle := by
    have he' := c.stable hle he
    have hmove := hc.move back he hi hle
    have hcheck : Action.Follows c (do
        if i ≠ e'.scene.current then
          let _ ← ((← MonadState.get).scene.cardAt i : Except Fault _)) :=
      .ite (.bind .get fun _ => .bind (.ofExcept _) fun _ => .pure _) (.pure _)
    have hmoveTo : (moveTo i back e').Follows c e' :=
      .after ⟨hmove, hc.free ..⟩ (hcheck.run (c.stable hmove he'))
    exact hmoveTo.bind fun _ _ hle' => hc.quiet.notifyChanged.run (c.stable hle' he')

/-- A move is always made; it fails after that if it leads from one position to another where
there is no card. -/
theorem moveTo_cases (i : Nat) (back : Bool) (e : Engine) :
    let e' := { e with scene := e.scene.moveTo i back }
    moveTo i back e = .finished (.ok ()) e' ∨
      i ≠ e.scene.current ∧ ¬e'.scene.HasCurrent ∧
        moveTo i back e = .finished (.error .noCurrentCard) e' := by
  intro e'
  obtain ⟨-, -, -, hcurrent⟩ := Scene.of_contents (e.scene.moveTo_contents i back)
  have hrun : moveTo i back e = (if i ≠ e.scene.current then
      liftM (e'.scene.cardAt i) >>= fun _ => Pure.pure () else Pure.pure ()
        : Action Engine Unit) e' := by
    show (if i ≠ e.scene.current then _ else _ : Action Engine Unit) e' = _
    by_cases hi : i ≠ e.scene.current
    · rw [if_pos hi, if_pos hi]
      rfl
    · rw [if_neg hi, if_neg hi]
  rw [hrun]
  by_cases hi : i ≠ e.scene.current
  · rw [if_pos hi, Scene.cardAt]
    cases hcard : e'.scene.cards[i]? with
    | some c => exact .inl rfl
    | none =>
        refine .inr ⟨hi, ?_, rfl⟩
        rw [Scene.HasCurrent, hcurrent, Nat.not_lt]
        exact List.getElem?_eq_none_iff.mp hcard
  · rw [if_neg hi]
    exact .inl rfl

/-- A move to a card is made, and nothing else happens. -/
theorem moveTo_card {e : Engine} {i : Nat} (hi : i < e.scene.cards.length) (back : Bool) :
    moveTo i back e = .finished (.ok ()) { e with scene := e.scene.moveTo i back } := by
  obtain hrun | ⟨-, hnone, -⟩ := moveTo_cases i back e
  · exact hrun
  · exact absurd (Scene.hasCurrent_moveTo hi back) hnone

/-- A move to where the user is cannot fail, even if there is no card. -/
theorem moveTo_current (back : Bool) (e : Engine) :
    moveTo e.scene.current back e =
      .finished (.ok ()) { e with scene := e.scene.moveTo e.scene.current back } := by
  obtain hrun | ⟨hne, -⟩ := moveTo_cases e.scene.current back e
  · exact hrun
  · exact absurd rfl hne

/-- What remains of a go to another card once its destination has been looked up. -/
theorem goToWith_leaves {dispatch : Dispatch} {destination : Value} {e : Engine} {i : Nat}
    (h : e.scene.resolve destination = .ok i) (hi : i ≠ e.scene.current) :
    goToWith dispatch destination e =
      (offerWith dispatch "closeCard" none e).bind fun _ =>
        moveTo i (Scene.isBack destination) >>= fun _ => notifyChanged >>= fun _ =>
          offerWith dispatch "openCard" none >>= fun _ => pure () := by
  show (liftM (e.scene.resolve destination) >>= fun i => if i = e.scene.current then _ else _
    : Action Engine Unit) e = _
  rw [h]
  show (if i = e.scene.current then _ else _ : Action Engine Unit) e = _
  rw [if_neg hi]
  rfl

namespace Fair

variable {c : Conduct Engine} (hc : Fair c)

include hc

/-! ### Navigation -/

variable {dispatch : Dispatch}
  (hd : ∀ event script origin, (dispatch event script origin).Follows c)

include hd

omit hc in
theorem offerTo (event : Text) (origin : Option Text) :
    ∀ candidates, (offerTo dispatch event origin candidates).Follows c
  | [] => .pure _
  | _ :: rest =>
    .bind .get fun _ => .bind (hd ..) fun _ => .ite (.pure _) (offerTo event origin rest)

omit hc in
theorem offerWith (event : Text) (origin : Option Text) :
    (offerWith dispatch event origin).Follows c :=
  .bind .get fun _ => .bind (.ofExcept _) fun _ => offerTo hd ..

theorem goToWith (destination : Value) : (goToWith dispatch destination).Follows c := by
  refine .get_bind fun {e} he => .ofExcept_bind he fun i hi => ?_
  have hoffer := fun event => offerWith (c := c) hd event none
  by_cases hcurrent : i = e.scene.current
  · rw [if_pos hcurrent]
    rw [hcurrent] at hi ⊢
    split
    · rw [moveTo_current]
      exact hc.does he (.stay hi)
    · exact Conduct.does_refl he
  · rw [if_neg hcurrent]
    refine ((hoffer "closeCard").run he).bind fun _ e' hle => ?_
    rw [← bind_assoc]
    refine (hc.move _ he hi hle).bind fun _ e'' hle' => ?_
    refine Action.Follows.run ?_ (c.stable hle' (c.stable hle he))
    exact .bind (hoffer "openCard") fun _ => .pure _

theorem showHit (cursor : Find.Cursor) (hit : Find.Hit) :
    (showHit dispatch cursor hit).Follows c := by
  refine .bind (hc.modify fun _ => .cursor _) fun _ => .bind .get fun _ => ?_
  have hrest : Action.Follows c (do
      Engine.setIt (hit.content (← get).scene)
      Engine.highlight hit.part.id) :=
    .bind .get fun _ => .bind (hc.setIt _) fun _ => hc.highlight _
  exact .ite (.bind (hc.goToWith hd _) fun _ => hrest) hrest

theorem findWith (term : Text) (field : Option Text) :
    (findWith dispatch term field).Follows c := by
  refine .ite (.pure _) (.get_bind fun {e} he => ?_)
  refine .set_bind he (hc.does he (.cursor _)) (.bind (.ofExcept _) fun hit => ?_)
  cases hit with
  | some hit => exact .bind (hc.showHit hd _ hit) fun _ => .pure _
  | none =>
      refine .bind (hc.modify fun _ => .cursor _) fun _ => ?_
      exact .bind hc.beep fun _ => .bind (hc.alert ..) fun _ => .pure _

end Fair

end Engine

end CardTalk
