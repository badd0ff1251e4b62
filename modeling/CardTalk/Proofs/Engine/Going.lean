/-
Going from one card to another is all or nothing.

A go looks its destination up before anything else, and as long as the presenter accepts every
call this is the only thing in it that can fail: whatever goes wrong in the handlers on the
way is reported by their dispatches (`Engine.offer_answers`).  What comes after the lookup is a
`Engine.Journey`: the event before the move, the move, which is shown and saved, and the event
after it, each of them once.

Handlers on the way could add and delete cards, or go somewhere themselves, and so take the
ground from under the go.  That they do not is `Engine.StaysPut`.  It speaks of the edits of
the cards only, which every change of the user's position is among (`Engine.Later`), and of
the scripts that are in the scene when the go begins, since no others come in as long as
host-mode scripts write none.
-/
import CardTalk.Proofs.Engine.Bubbling
import CardTalk.Proofs.Engine.Isolation
import CardTalk.Proofs.Engine.Lasting
import CardTalk.Proofs.Engine.Putting
import CardTalk.Proofs.Run
import CardTalk.Proofs.Scene.Deck
import CardTalk.Proofs.Host.Line

namespace CardTalk

theorem Run.Ends.reaches {σ α : Type} {P : Except Fault α → σ → Prop} {others : σ → σ → Prop}
    {r : Run σ α} {outcome : Except Fault α} {t : σ} (h : r.Ends P)
    (hr : r.Reaches others outcome t) : P outcome t := by
  induction hr with
  | finished => exact h
  | asleep _ _ ih => exact ih (h _)

namespace Scene

/-- The script of a candidate is one of the scene, if it has any, as long as no card has been
edited since the event came. -/
theorem scriptOf_cases {s : Scene} {r : Reference} (hr : r.edits = s.edits.length) :
    s.scriptOf r = [] ∨ s.scriptOf r ∈ s.allScripts := by
  have hrefer : r = s.refer r.place := by rw [refer, ← hr]
  rw [hrefer, scriptOf_refer]
  cases hx : s.entity? r.place with
  | none => exact .inl rfl
  | some x => exact .inr (script_mem_allScripts hx)

end Scene

namespace Engine

/-! ### Engines whose handlers stay where they are -/

/-- No handler in the scene that is told of leaving or entering a card adds a card, deletes one
or goes to one, whatever has become of the engine until it is told. -/
def StaysPut (dispatch : Dispatch) (others : Engine → Engine → Prop) (e : Engine) : Prop :=
  ∀ event ∈ [("closeCard" : Text), "openCard"], ∀ script ∈ e.scene.allScripts, ∀ s, Later e s →
    ∀ outcome t, (dispatch event script none s).Reaches others outcome t →
      t.scene.edits = s.scene.edits

/-- Nothing can come in the way of a go whose destination is a card. -/
structure Clear (dispatch : Dispatch) (others : Engine → Engine → Prop) (e : Engine) : Prop where
  wellFormed : e.scene.navigation.WellFormed
  /-- The presenter accepts every call. -/
  accepts : ∀ events, e.presenter.failure events = none
  staysPut : e.StaysPut dispatch others
  /-- Host-mode scripts give nothing another script. -/
  host : e.world.host.Keeps .unscripted

variable {depth : Nat} {others : Engine → Engine → Prop} {e e' t : Engine}

theorem StaysPut.later (h : e.StaysPut (dispatchAt (depth + 1)) others) (hle : Later e e') :
    e'.StaysPut (dispatchAt (depth + 1)) others := by
  intro event hevent script hscript s hs outcome t ht
  rcases hle.scripts script hscript with rfl | hscript
  · rw [dispatchAt_ignored depth none (.inl rfl), Run.reaches_finished] at ht
    rw [ht.2]
  · exact h event hevent script hscript s (hle.trans hs) outcome t ht

theorem Clear.later (h : e.Clear (dispatchAt (depth + 1)) others) (hle : Later e e')
    (hwellFormed : e'.scene.navigation.WellFormed) :
    e'.Clear (dispatchAt (depth + 1)) others :=
  ⟨hwellFormed, fun events => hle.failure ▸ h.accepts events, h.staysPut.later hle,
    hle.world ▸ h.host⟩

/-! ### The events of a go -/

/-- No card has been added, deleted or gone to. -/
structure Unmoved (e e' : Engine) : Prop where
  edits : e'.scene.edits = e.scene.edits
  navigation : e'.scene.navigation = e.scene.navigation

section

variable (hothers : ∀ s s', others s s' → Later s s') {event : Text}
  (hevent : event ∈ [("closeCard" : Text), "openCard"])

include hothers

theorem offerTo_later {candidates : List Reference} {outcome : Except Fault Bool}
    (hhost : e.world.host.Keeps .unscripted)
    (h : (offerTo (dispatchAt depth) event none candidates e).Reaches others outcome t) :
    Later e t := by
  have hfollows := Fair.offerTo (dispatchAt_lasting depth) event none candidates
  exact (hfollows.run hhost).reaches hothers h

include hevent

/-- None of the handlers edits the cards, so the candidates mean the same throughout. -/
theorem offerTo_staysPut {candidates : List Reference} {outcome : Except Fault Bool}
    (he : e.StaysPut (dispatchAt (depth + 1)) others) (hhost : e.world.host.Keeps .unscripted)
    (hcandidates : ∀ r ∈ candidates, r.edits = e.scene.edits.length)
    (h : (offerTo (dispatchAt (depth + 1)) event none candidates e).Reaches others outcome t) :
    t.scene.edits = e.scene.edits := by
  induction candidates generalizing e with
  | nil =>
      obtain ⟨-, rfl⟩ := Run.reaches_finished.mp h
      rfl
  | cons candidate rest ih =>
      have hcons : offerTo (dispatchAt (depth + 1)) event none (candidate :: rest) e =
          (dispatchAt (depth + 1) event (e.scene.scriptOf candidate) none e).bind fun handled =>
            if handled then pure true
            else offerTo (dispatchAt (depth + 1)) event none rest := rfl
      have hfirst : ∀ outcome s, (dispatchAt (depth + 1) event (e.scene.scriptOf candidate) none
          e).Reaches others outcome s → Later e s ∧ s.scene.edits = e.scene.edits := by
        intro outcome s hs
        have hfollows := dispatchAt_lasting (depth + 1) event (e.scene.scriptOf candidate) none
        have hlater := (hfollows.run hhost).reaches hothers hs
        refine ⟨hlater, ?_⟩
        rcases Scene.scriptOf_cases (hcandidates candidate List.mem_cons_self) with hnone | hscript
        · rw [hnone, dispatchAt_ignored depth none (.inl rfl), Run.reaches_finished] at hs
          rw [hs.2]
        · exact he event hevent _ hscript e (.refl e) outcome s hs
      rw [hcons, Run.reaches_bind] at h
      rcases h with ⟨handled, s, hs, ht⟩ | ⟨f, hf, -⟩
      · obtain ⟨hlater, hedits⟩ := hfirst _ _ hs
        cases handled with
        | true =>
            obtain ⟨-, rfl⟩ := Run.reaches_finished.mp ht
            exact hedits
        | false =>
            rw [← hedits]
            refine ih (he.later hlater) (hlater.world ▸ hhost) (fun r hr => ?_) ht
            rw [hedits]
            exact hcandidates r (List.mem_cons_of_mem _ hr)
      · exact (hfirst _ _ hf).2

/-- An event on the way is answered, whatever goes wrong in its handlers.  The user is where he was
then, and nothing has come in the way of the go. -/
theorem offer_answers {c : Card} {outcome : Except Fault Bool}
    (he : e.Clear (dispatchAt (depth + 1)) others)
    (h : (offerTo (dispatchAt (depth + 1)) event none ((e.scene.path c none).map e.scene.refer)
      e).Reaches others outcome t) :
    (∃ handled, outcome = .ok handled) ∧ Unmoved e t ∧
      t.Clear (dispatchAt (depth + 1)) others := by
  have hlater := offerTo_later hothers he.host h
  have hedits : t.scene.edits = e.scene.edits := by
    refine offerTo_staysPut hothers hevent he.staysPut he.host (fun r hr => ?_) h
    obtain ⟨place, -, rfl⟩ := List.mem_map.mp hr
    rfl
  have hnavigation := hlater.navigation hedits
  refine ⟨?_, ⟨hedits, hnavigation⟩, he.later hlater (hnavigation ▸ he.wellFormed)⟩
  have hends := offerTo_ends (fun script => dispatchWith_ends (dispatchAt depth) event script none)
  rcases (hends _ e).reaches h with hok | ⟨f, g, -, -, hrefused⟩
  · exact hok
  · rw [hlater.failure, he.accepts] at hrefused
    exact nomatch hrefused

end

/-! ### The move -/

/-- A move to a card is shown and saved at once, whatever comes after it. -/
theorem moveTo_notifies {i : Nat} (hi : i < e.scene.cards.length)
    (haccepts : ∀ events, e.presenter.failure events = none) (back : Bool) :
    let moved := { e with scene := e.scene.moveTo i back }
    ∃ arrived, notifyChanged moved = .finished (.ok ()) arrived ∧ Steady moved arrived ∧
      arrived.trace = .save :: .render :: e.trace ∧
      ∀ next : Action Engine Unit,
        (moveTo i back >>= fun _ => notifyChanged >>= fun _ => next) e = next arrived := by
  intro moved
  have hcurrent : moved.scene.HasCurrent := Scene.hasCurrent_moveTo hi back
  obtain ⟨outcome, arrived, hnotify, hsteady, -, hnotified⟩ := notifyChanged_notified hcurrent
  obtain rfl := hnotified.ok haccepts
  refine ⟨arrived, hnotify, hsteady, ?_, fun next => ?_⟩
  · cases hnotified with
    | saved _ _ htrace => exact htrace
  · show (moveTo i back e).bind (fun _ => notifyChanged >>= fun _ => next) = next arrived
    rw [moveTo_card hi]
    show (notifyChanged moved).bind (fun _ => next) = next arrived
    rw [hnotify]
    rfl

/-! ### The whole go -/

/-- How a go can end after the card that is left has been told: the move to the card at a
position is made and at once shown and saved, and then that card is told, or else its background
or the stack. -/
inductive Arrival (dispatch : Dispatch) (others : Engine → Engine → Prop) (i : Nat) (back : Bool)
    (e t : Engine) : Prop
  | mk {arrived : Engine} {new : Card} {handled : Bool}
      (hnotify : notifyChanged { e with scene := e.scene.moveTo i back } =
        .finished (.ok ()) arrived)
      (hsteady : Steady { e with scene := e.scene.moveTo i back } arrived)
      (htrace : arrived.trace = .save :: .render :: e.trace)
      (hmoved : arrived.scene.navigation = ⟨e.scene.cards.length, i,
        if back then e.scene.history.tail else e.scene.current :: e.scene.history⟩)
      (hnew : arrived.scene.cards[i]? = some new)
      (hopen : (offerTo dispatch "openCard" none ((arrived.scene.path new none).map
        arrived.scene.refer) arrived).Reaches others (.ok handled) t)
      (hopened : Unmoved arrived t)

/-- How a go from one card to another can end: the card that is left is told, or else its
background or the stack, and then the user arrives. -/
inductive Journey (dispatch : Dispatch) (others : Engine → Engine → Prop) (i : Nat) (back : Bool)
    (e t : Engine) : Prop
  | mk {old : Card} {closed : Engine} {handled : Bool}
      (hold : e.scene.cards[e.scene.current]? = some old)
      (hclose : (offerTo dispatch "closeCard" none ((e.scene.path old none).map e.scene.refer)
        e).Reaches others (.ok handled) closed)
      (hclosed : Unmoved e closed)
      (harrival : Arrival dispatch others i back closed t)

section

variable (hothers : ∀ s s', others s s' → Later s s') {i : Nat} {back : Bool}

theorem later_of_notifyChanged {outcome : Except Fault Unit}
    (hhost : e.world.host.Keeps .unscripted) (h : notifyChanged e = .finished outcome e') :
    Later e e' := by
  have hfollows := lawful_lasting.fair.notifyChanged.run (s := e) hhost
  rw [h] at hfollows
  exact hfollows.1

theorem Journey.navigation {dispatch : Dispatch} (h : Journey dispatch others i back e t) :
    t.scene.navigation = ⟨e.scene.cards.length, i,
      if back then e.scene.history.tail else e.scene.current :: e.scene.history⟩ := by
  obtain ⟨-, -, hclosed, -, -, -, hmoved, -, -, hopened⟩ := h
  obtain ⟨hcards, hcurrent, hhistory⟩ := Navigation.mk.inj hclosed.navigation
  rw [hopened.navigation, hmoved, hcards, hcurrent, hhistory]

theorem Journey.edits {dispatch : Dispatch} (h : Journey dispatch others i back e t) :
    t.scene.edits = .moved i back :: e.scene.edits := by
  obtain ⟨-, -, hclosed, -, hsteady, -, -, -, -, hopened⟩ := h
  rw [hopened.edits, hsteady.edits, ← hclosed.edits]
  exact Scene.moveTo_edits _ i back

include hothers

theorem Arrival.later (hhost : e.world.host.Keeps .unscripted)
    (h : Arrival (dispatchAt depth) others i back e t) : Later e t := by
  obtain ⟨hnotify, -, -, -, -, hopen, -⟩ := h
  have hmoved := (Later.moveTo e i back).trans (later_of_notifyChanged hhost hnotify)
  exact hmoved.trans (offerTo_later hothers (hmoved.world ▸ hhost) hopen)

theorem Journey.later (hhost : e.world.host.Keeps .unscripted)
    (h : Journey (dispatchAt depth) others i back e t) : Later e t := by
  obtain ⟨-, hclose, -, harrival⟩ := h
  have hclosed := offerTo_later hothers hhost hclose
  exact hclosed.trans (harrival.later hothers (hclosed.world ▸ hhost))

/-- Once the card that is left has been told, nothing keeps the user from arriving. -/
theorem moveTo_arrives (he : e.Clear (dispatchAt (depth + 1)) others)
    (hi : i < e.scene.cards.length) (hne : i ≠ e.scene.current) {outcome : Except Fault Unit} :
    ((moveTo i back >>= fun _ => notifyChanged >>= fun _ =>
        offerWith (dispatchAt (depth + 1)) "openCard" none >>= fun _ => pure ()) e).Reaches
      others outcome t ↔
      outcome = .ok () ∧ Arrival (dispatchAt (depth + 1)) others i back e t := by
  obtain ⟨arrived, hnotify, hsteady, htrace, hrun⟩ := moveTo_notifies hi he.accepts back
  have hafter : arrived.scene.navigation = e.scene.navigation.after (.moved i back) :=
    hsteady.navigation.trans (e.scene.moveTo_navigation i back)
  have hmoved := hafter.trans (Navigation.after_moved hne back)
  have hclear : arrived.Clear (dispatchAt (depth + 1)) others :=
    he.later ((Later.moveTo e i back).trans (later_of_notifyChanged he.host hnotify))
      (hafter ▸ he.wellFormed.moved back hi)
  obtain ⟨hcards, hcurrent, -⟩ := Navigation.mk.inj hmoved
  have hnew := List.getElem?_eq_getElem hclear.wellFormed.current
  have hoffer : (offerWith (dispatchAt (depth + 1)) "openCard" none >>= fun _ =>
      (pure () : Action Engine Unit)) arrived =
      (offerTo (dispatchAt (depth + 1)) "openCard" none ((arrived.scene.path _ none).map
        arrived.scene.refer) arrived).bind fun _ => pure () :=
    congrArg (Run.bind _) (offerWith_eq hnew _ _ _)
  rw [hrun, hoffer, Run.reaches_bind]
  have hcurrent : arrived.scene.current = i := hcurrent
  constructor
  · rintro (⟨handled, u, hopen, hend⟩ | ⟨f, hopen, -⟩)
    · obtain ⟨rfl, rfl⟩ := Run.reaches_finished.mp hend
      obtain ⟨-, hopened, -⟩ := offer_answers hothers (by simp) hclear hopen
      exact ⟨rfl, .mk hnotify hsteady htrace hmoved (hcurrent ▸ hnew) hopen hopened⟩
    · obtain ⟨⟨_, hnone⟩, -⟩ := offer_answers hothers (by simp) hclear hopen
      exact nomatch hnone
  · rintro ⟨rfl, hnotify', -, -, -, hnew', hopen, -⟩
    obtain ⟨-, rfl⟩ := Run.finished.inj (hnotify'.symm.trans hnotify)
    obtain rfl := Option.some.inj ((hcurrent ▸ hnew').symm.trans hnew)
    exact .inl ⟨_, _, hopen, .finished⟩

end

theorem goToWith_failed {dispatch : Dispatch} {destination : Value} {f : Fault}
    (h : e.scene.resolve destination = .error f) :
    goToWith dispatch destination e = .finished (.error f) e := by
  show (liftM (e.scene.resolve destination) >>= fun i => if i = e.scene.current then _ else _
    : Action Engine Unit) e = _
  rw [h]
  rfl

theorem goToWith_here {dispatch : Dispatch} {destination : Value}
    (h : e.scene.resolve destination = .ok e.scene.current) :
    goToWith dispatch destination e = .finished (.ok ())
      (if Scene.isBack destination then
        { e with scene := { e.scene with
            history := e.scene.history.tail
            edits := .moved e.scene.current true :: e.scene.edits } }
      else e) := by
  have hrun : goToWith dispatch destination e =
      (if Scene.isBack destination then moveTo e.scene.current true else pure ()
        : Action Engine Unit) e := by
    show (liftM (e.scene.resolve destination) >>= fun i => if i = e.scene.current then _ else _
      : Action Engine Unit) e = _
    rw [h]
    show (if e.scene.current = e.scene.current then _ else _ : Action Engine Unit) e = _
    rw [if_pos rfl]
  rw [hrun]
  by_cases hback : Scene.isBack destination = true
  · rw [if_pos hback, if_pos hback]
    rw [moveTo_current, Scene.moveTo, if_pos rfl]
    rfl
  · rw [if_neg hback, if_neg hback]
    rfl

theorem goToWith_elsewhere {dispatch : Dispatch} {destination : Value} {i : Nat} {old : Card}
    (h : e.scene.resolve destination = .ok i) (hi : i ≠ e.scene.current)
    (hold : e.scene.cards[e.scene.current]? = some old) :
    goToWith dispatch destination e =
      (offerTo dispatch "closeCard" none ((e.scene.path old none).map e.scene.refer) e).bind
        fun _ => moveTo i (Scene.isBack destination) >>= fun _ => notifyChanged >>= fun _ =>
          offerWith dispatch "openCard" none >>= fun _ => pure () := by
  rw [goToWith_leaves h hi, offerWith_eq hold]

theorem goToWith_reaches (hothers : ∀ s s', others s s' → Later s s')
    (he : e.Clear (dispatchAt (depth + 1)) others) {destination : Value} {i : Nat}
    (hresolve : e.scene.resolve destination = .ok i) (hi : i ≠ e.scene.current)
    {outcome : Except Fault Unit} :
    (goToWith (dispatchAt (depth + 1)) destination e).Reaches others outcome t ↔
      outcome = .ok () ∧
        Journey (dispatchAt (depth + 1)) others i (Scene.isBack destination) e t := by
  have hlt := Scene.resolve_lt he.wellFormed hresolve
  have hold : e.scene.cards[e.scene.current]? = some _ :=
    List.getElem?_eq_getElem he.wellFormed.current
  have haway : ∀ {closed : Engine}, Unmoved e closed →
      i < closed.scene.cards.length ∧ i ≠ closed.scene.current := by
    intro closed hclosed
    obtain ⟨hcards, hcurrent, -⟩ := Navigation.mk.inj hclosed.navigation
    rw [hcards, hcurrent]
    exact ⟨hlt, hi⟩
  rw [goToWith_elsewhere hresolve hi hold, Run.reaches_bind]
  constructor
  · rintro (⟨handled, closed, hclose, hrest⟩ | ⟨f, hclose, -⟩)
    · obtain ⟨-, hclosed, hclear⟩ := offer_answers hothers (by simp) he hclose
      obtain ⟨hlt, hne⟩ := haway hclosed
      obtain ⟨rfl, harrival⟩ := (moveTo_arrives hothers hclear hlt hne).mp hrest
      exact ⟨rfl, .mk hold hclose hclosed harrival⟩
    · obtain ⟨⟨_, hnone⟩, -⟩ := offer_answers hothers (by simp) he hclose
      exact nomatch hnone
  · rintro ⟨rfl, hold', hclose, -, harrival⟩
    obtain rfl := Option.some.inj (hold'.symm.trans hold)
    obtain ⟨-, hclosed, hclear⟩ := offer_answers hothers (by simp) he hclose
    obtain ⟨hlt, hne⟩ := haway hclosed
    exact .inl ⟨_, _, hclose, (moveTo_arrives hothers hclear hlt hne).mpr ⟨rfl, harrival⟩⟩

/-- After a journey forward the way back leads to where it began. -/
theorem Journey.resolve_back {dispatch : Dispatch} {i : Nat}
    (h : Journey dispatch others i false e t) :
    t.scene.resolve (.text "back") = .ok e.scene.current ∧ t.scene.current = i := by
  obtain ⟨-, hcurrent, hhistory⟩ := Navigation.mk.inj h.navigation
  refine ⟨?_, hcurrent⟩
  rw [Scene.resolve_back, hhistory]
  rfl

/-- **Going to a card is all or nothing, and says so once.**  In a scene whose handlers neither go
anywhere nor add or delete cards, a go fails only if its destination cannot be looked up, and
then nothing has happened.  If the destination is where the user is, nobody is told and nothing
is shown; only going back takes an entry out of the history.  Otherwise the go succeeds, and it
ends in the ways of a journey and no others: the card that is left is told, the move is made,
shown once and saved once, and the card that is entered is told.  After a journey forward, going
back is a journey to the card that was left, with the history from before.

All of this holds whatever fails in the handlers on the way and whatever others do to the engine
while these sleep.  Host-mode scripts may do all that they are offered but give anything another
script, which could go somewhere when it is told. -/
theorem goToWith_journeys (depth : Nat) {others : Engine → Engine → Prop}
    (hothers : ∀ s s', others s s' → Later s s') {e : Engine}
    (he : e.Clear (dispatchAt (depth + 1)) others) (destination : Value) :
    let dispatch := dispatchAt (depth + 1)
    let back := Scene.isBack destination
    (∀ f, e.scene.resolve destination = .error f →
      goToWith dispatch destination e = .finished (.error f) e) ∧
    (∀ f t, (goToWith dispatch destination e).Reaches others (.error f) t →
      e.scene.resolve destination = .error f ∧ t = e) ∧
    (e.scene.resolve destination = .ok e.scene.current →
      goToWith dispatch destination e = .finished (.ok ())
        (if back then
          { e with scene := { e.scene with
              history := e.scene.history.tail
              edits := .moved e.scene.current true :: e.scene.edits } }
        else e)) ∧
    ∀ i, e.scene.resolve destination = .ok i → i ≠ e.scene.current →
      (∀ outcome t, (goToWith dispatch destination e).Reaches others outcome t ↔
        outcome = .ok () ∧ Journey dispatch others i back e t) ∧
      (back = false → ∀ t, Journey dispatch others i back e t →
        (∀ outcome u, (goToWith dispatch (.text "back") t).Reaches others outcome u ↔
          outcome = .ok () ∧ Journey dispatch others e.scene.current true t u) ∧
        ∀ u, Journey dispatch others e.scene.current true t u →
          u.scene.navigation = e.scene.navigation ∧
          u.scene.edits = .moved e.scene.current true :: .moved i false :: e.scene.edits) := by
  intro dispatch back
  refine ⟨fun f => goToWith_failed, fun f t h => ?_, goToWith_here, fun i hresolve hi => ?_⟩
  · cases hresolve : e.scene.resolve destination with
    | error g =>
        rw [goToWith_failed hresolve] at h
        obtain ⟨hfault, rfl⟩ := Run.reaches_finished.mp h
        exact ⟨congrArg Except.error (Except.error.inj hfault).symm, rfl⟩
    | ok i =>
        by_cases hi : i = e.scene.current
        · rw [goToWith_here (hi ▸ hresolve)] at h
          exact nomatch (Run.reaches_finished.mp h).1
        · exact nomatch ((goToWith_reaches hothers he hresolve hi).mp h).1
  · refine ⟨fun outcome t => goToWith_reaches hothers he hresolve hi, fun hback t ht => ?_⟩
    rw [hback] at ht
    obtain ⟨hreturn, hcurrent⟩ := ht.resolve_back
    have hlt := Scene.resolve_lt he.wellFormed hresolve
    have hnavigation : t.scene.navigation = e.scene.navigation.after (.moved i false) :=
      ht.navigation.trans (Navigation.after_moved (n := e.scene.navigation) hi false).symm
    have hclear : t.Clear dispatch others :=
      he.later (ht.later hothers he.host) (hnavigation ▸ he.wellFormed.moved false hlt)
    refine ⟨fun outcome u => ?_, fun u hu => ?_⟩
    · exact goToWith_reaches hothers hclear hreturn (hcurrent ▸ hi.symm)
    · obtain ⟨hcards, -, hhistory⟩ := Navigation.mk.inj ht.navigation
      refine ⟨?_, by rw [hu.edits, ht.edits]⟩
      rw [hu.navigation, hcards, hhistory]
      rfl

/-- A silent engine on the first of two cards that beep when they are left and entered. -/
def ringing : Engine :=
  let script : Text := "on closeCard\nbeep\nend closeCard\non openCard\nbeep\nend openCard"
  .new (.assemble (.usual "s") [] [{ Card.usual "a" "A" with script },
      { Card.usual "b" "B" with script }] 0 0)
    { hostMarker := none, repeatLimit := .null, ticksPerSecond := .null
      serializeEvents := .ok true, idleInterval := .ok .null, isServed := .ok false }
    { console := none, replies := [], failure := fun _ => none }
    (.still .bare)

theorem ringing_staysPut : ringing.StaysPut (dispatchAt 200) (· = ·) := by
  intro event hevent script hscript s hs outcome t ht
  have hscripts : ∀ script ∈ ringing.scene.allScripts, script = [] ∨
      ∀ event ∈ [("closeCard" : Text), "openCard"],
        Script.handler? (Script.statements script) event = some [("beep" : Text)] := by
    decide +kernel
  have hhost : ¬s.settings.hostMarker.any (Script.isHostMode script) := by
    rw [hs.settings]
    exact Bool.false_ne_true
  rcases hscripts script hscript with rfl | hhandler
  · rw [dispatchAt_ignored 199 none (.inl rfl), Run.reaches_finished] at ht
    rw [ht.2]
  · obtain ⟨rung, hbeep, hsteady, -⟩ := beep_traced s
    have hbody : Handler.runStatements (dispatchAt 199) ["beep"] (s, { origin := none }) =
        .finished (.ok ()) (rung, { origin := none }) := by
      rw [Handler.runStatements_commands _ (by decide +kernel), List.map_singleton,
        Handler.runNodes_cons _ (by decide +kernel : Command.ofStatement? "beep" = some .beep)]
      show ((beep s).beside _).bind _ = _
      rw [hbeep]
      rfl
    have hdispatch : dispatchAt 200 event script none s = .finished (.ok true) rung := by
      rw [dispatchAt_eq 199 event none hhost, runHandler, hhandler event hevent]
      show (((Handler.runStatements (dispatchAt 199) ["beep"] (s, { origin := none })).hide.bind
        _).attempt.bind _) = _
      rw [hbody]
      rfl
    rw [hdispatch, Run.reaches_finished] at ht
    rw [ht.2, hsteady.edits]

/-- There is no third card to go to; and going to the second one and back rings twice each time, for
the card that is left and for the one that is entered, and is shown and saved in between. -/
theorem goToWith_journeys_ringing :
    let go := goToWith (dispatchAt 200)
    let there := (go (.int 2) ringing).complete.2
    let home := (go (.text "back") there).complete.2
    go (.int 3) ringing = .finished (.error (.cardOutOfRange "3" 2)) ringing ∧
      Journey (dispatchAt 200) (· = ·) 1 false ringing there ∧
      there.trace = [.beep, .save, .render, .beep] ∧ there.scene.navigation = ⟨2, 1, [0]⟩ ∧
      Journey (dispatchAt 200) (· = ·) 0 true there home ∧
      home.trace = [.beep, .save, .render, .beep] ++ there.trace ∧
      home.scene.navigation = ringing.scene.navigation := by
  intro go there home
  have hothers : ∀ s s' : Engine, s = s' → Later s s' := fun s _ h => h ▸ .refl s
  have hclear : ringing.Clear (dispatchAt 200) (· = ·) :=
    ⟨by decide, fun _ => rfl, ringing_staysPut,
      (World.still_keeps _ _).mono Host.Scope.methods_le_unscripted⟩
  have hnowhere : ringing.scene.resolve (.int 3) = .error (.cardOutOfRange "3" 2) := by
    decide +kernel
  have hstay := (goToWith_journeys 199 hothers hclear (.int 3)).1 _ hnowhere
  obtain ⟨-, -, -, hjourneys⟩ := goToWith_journeys 199 hothers hclear (.int 2)
  obtain ⟨hthere, hback⟩ := hjourneys 1 (by decide +kernel) (by decide +kernel)
  have hends : (go (.int 2) ringing).Reaches (· = ·) (.ok ()) there :=
    Run.reaches_complete (by decide +kernel)
  have hgo : Journey (dispatchAt 200) (· = ·) 1 false ringing there :=
    ((hthere (.ok ()) there).mp hends).2
  obtain ⟨hreturn, hhome⟩ := hback rfl there hgo
  have hendsBack : (go (.text "back") there).Reaches (· = ·) (.ok ()) home :=
    Run.reaches_complete (by decide +kernel)
  have hgoBack : Journey (dispatchAt 200) (· = ·) 0 true there home :=
    ((hreturn (.ok ()) home).mp hendsBack).2
  have hrung : there.trace = [.beep, .save, .render, .beep] := by decide +kernel
  have hrungBack : home.trace = [.beep, .save, .render, .beep] ++ there.trace := by
    decide +kernel
  exact ⟨hstay, hgo, hrung, hgo.navigation, hgoBack, hrungBack, (hhome home hgoBack).1⟩

end Engine

end CardTalk
