/-
No change goes unsaved.

Whatever a session does to the contents of the scene it asks to be saved before it lets
anyone else go on, and before it can fail (`session_saved`), provided that the presenter
never fails and host-mode scripts use nothing but the methods of their scenes.  Two changes
escape this, neither of them ever shown: a go that is overtaken ends beyond the last card,
with the move made but not the notification after it (`session_unsaved_go`), and an attempt
to set the middle of an object may break off after the first of its two steps, which half a
height too large to compute makes it do.
-/
import CardTalk.Proofs.Engine.Outside
import CardTalk.Proofs.Scene.Writing
import CardTalk.Proofs.Session.Navigation

namespace CardTalk

/-! ### Saving as a conduct -/

/-- If the user is on a card, everything is saved. -/
structure Engine.Saved (e : Engine) : Prop where
  host : e.world.host.Keeps .methods
  steadfast : e.presenter.Steadfast
  measured : e.scene.Measured
  saved : e.scene.HasCurrent → e.saved.contents = e.scene.contents

/-- Everything is saved whenever somebody goes on. -/
def Conduct.saving : Conduct Engine where
  holds := Engine.Saved
  leads _ e' := e'.Saved
  refl h := h
  trans _ h' := h'
  stable h _ := h

namespace Engine

theorem open_saving : Open .saving where
  aside {e e'} he haside := by
    obtain ⟨hhost, hsteadfast, hmeasured, hsaved⟩ := he
    cases haside with
    | trace | «show» | registers | cursor | idling =>
        exact ⟨hhost, hsteadfast, hmeasured, hsaved⟩
    | save => exact ⟨hhost, hsteadfast, hmeasured, fun _ => rfl⟩
    | effects => exact ⟨hhost, hsteadfast, ⟨hmeasured.backgrounds, hmeasured.cards⟩, hsaved⟩
    | breakOff hx hy =>
        rw [hmeasured.replace_failed hx hy]
        exact ⟨hhost, hsteadfast, hmeasured, hsaved⟩
    | stay =>
        have hcontents : (e.scene.moveTo e.scene.current true).contents = e.scene.contents :=
          e.scene.moveTo_contents e.scene.current true
        refine ⟨hhost, hsteadfast, hmeasured.moveTo _ _, fun hcurrent => ?_⟩
        show e.saved.contents = (e.scene.moveTo e.scene.current true).contents
        rw [hcontents]
        exact hsaved (Scene.hasCurrent_of_contents hcontents hcurrent)

/-- What a script notes and what becomes of the memory need not be saved, and nothing else changes
under its hands. -/
theorem hosted_saving : Hosted .saving :=
  .of_keeps .methods (fun _ => trivial)
    (fun he _ _ => ⟨⟨he.host, he.steadfast, he.measured, he.saved⟩, trivial⟩)
    (fun he => he.host) (fun _ hwrite => hwrite.elim) fun _ hreach => hreach.elim

/-- Notifying saves what the scene holds, if the user is on a card. -/
theorem notifyChanged_saves {e : Engine} (hsteadfast : e.presenter.Steadfast)
    (hcurrent : e.scene.HasCurrent) :
    ∃ e', notifyChanged e = .finished (.ok ()) e' ∧ Steady e e' ∧ e'.saved = e'.scene := by
  obtain ⟨outcome, e₁, hrender, hsteady₁, hgives₁⟩ := render_answered hcurrent
  obtain rfl := hgives₁.of_never hsteadfast
  obtain ⟨outcome, e₂, hsave, hsteady₂, hgives₂⟩ := requestSave_answered e₁
  obtain rfl := (hgives₂.before hsteady₁.failure).of_never hsteadfast
  refine ⟨e₂, ?_, hsteady₁.trans hsteady₂, requestSave_saved hsave⟩
  show (render e).bind (fun _ => requestSave) = _
  rw [hrender]
  exact hsave

/-- Notifying after a change makes good for it: where the user is not on a card nothing is
promised, and elsewhere everything is saved. -/
theorem notifyChanged_follows {e : Engine} (hhost : e.world.host.Keeps .methods)
    (hsteadfast : e.presenter.Steadfast) (hmeasured : e.scene.Measured) :
    (notifyChanged e).Follows .saving e := by
  by_cases hcurrent : e.scene.HasCurrent
  · obtain ⟨e', hrun, hsteady, hsaved⟩ := notifyChanged_saves hsteadfast hcurrent
    rw [hrun]
    refine ⟨⟨?_, ?_, ?_, fun _ => congrArg Scene.contents hsaved⟩, trivial⟩
    · rw [hsteady.world]
      exact hhost
    · intro events
      rw [hsteady.failure]
      exact hsteadfast events
    · exact hmeasured.same hsteady.contents
  · have he : e.Saved := ⟨hhost, hsteadfast, hmeasured, fun h => absurd h hcurrent⟩
    exact open_saving.quiet.notifyChanged.run he

/-- What has been saved does not depend on where a run began. -/
theorem follows_saving {e e' : Engine} {α : Type} {r : Run Engine α}
    (h : r.Follows .saving e') : r.Follows .saving e := by
  cases r with
  | finished outcome s => exact h
  | asleep seconds s wake => exact h

theorem lawful_saving : Lawful .saving where
  toOpen := open_saving
  hosted := hosted_saving
  change he hchange :=
    follows_saving (notifyChanged_follows he.host he.steadfast (he.measured.change hchange))
  move {e e' destination i} back he hi he' := by
    have hmeasured := he'.measured.moveTo i back
    show ((moveTo i back e').bind fun _ => notifyChanged).Follows .saving e'
    obtain hrun | ⟨-, hnone, hrun⟩ := moveTo_cases i back e'
    · rw [hrun]
      exact follows_saving (notifyChanged_follows he'.host he'.steadfast hmeasured)
    · rw [hrun]
      exact ⟨⟨he'.host, he'.steadfast, hmeasured, fun hcurrent => absurd hcurrent hnone⟩, trivial⟩

end Engine

/-! ### Every session -/

/-- **Whenever something in a session is suspended or has ended and the user is on a card, the
stack, the backgrounds, the cards with all that is on them and the position of the current
card are what they were at the latest request to save, or at the start.**  The presenter must
not fail, host-mode scripts must use nothing but the methods of their scenes, and half the
height of every object must be a number that can be computed. -/
theorem session_saved (scene : Scene) (settings : Settings) (presenter : Presenter)
    (world : World) (hhost : world.host.Keeps .methods) (hpresenter : presenter.Steadfast)
    (hscene : scene.Measured) (happenings : List Happening) :
    let e := (session (.new scene settings presenter world) happenings).state
    e.scene.HasCurrent → e.saved.contents = e.scene.contents := by
  have hstart : (Engine.new scene settings presenter world).Saved :=
    ⟨hhost, hpresenter, hscene, fun _ => rfl⟩
  exact (session_obeys Engine.lawful_saving hstart happenings).1.holds.saved

/-- A silent engine on two cards, the first with a note and a script that writes into it, asks
something and goes on to the second card. -/
def Engine.noting : Engine :=
  let note : Part :=
    { id := "f", name := "Note", rect := ⟨.float 0, .float 0, .float 200, .float 100⟩
      visible := true, script := [], layer := "card", rotation := .float 0
      body := .field "old" [] [] [] (.float 16) true false }
  let script : Text :=
    "on mouseUp\nput \"new\" into field \"Note\"\nanswer \"?\"\ngo 2\nend mouseUp"
  .new (.assemble (.usual "s") [] [{ Card.usual "a" "A" with script, parts := [note] },
      .usual "b" "B"] 0 0)
    { hostMarker := none, repeatLimit := .null, ticksPerSecond := .null
      serializeEvents := .ok true, idleInterval := .ok .null, isServed := .ok false }
    { console := none, replies := [], failure := fun _ => none }
    (.still .bare fun _ => true)

/-- The note is saved while the question is open, and the new card once the script has ended. -/
theorem session_saved_noting :
    let click : Happening := .ask (.offer "mouseUp" none)
    let asking := (session .noting [click]).state
    let ended := (session .noting [click, .turn 0]).state
    Engine.noting.world.host.Keeps .methods ∧ Engine.noting.presenter.Steadfast ∧
      Engine.noting.scene.Measured ∧
      (asking.scene.HasCurrent ∧ asking.saved.contents = asking.scene.contents ∧
        asking.scene.current = 0) ∧
      ended.scene.HasCurrent ∧ ended.saved.contents = ended.scene.contents ∧
        ended.scene.current = 1 := by
  intro click asking ended
  have hhost : Engine.noting.world.host.Keeps .methods := World.still_keeps _ _
  have hsteadfast : Engine.noting.presenter.Steadfast := fun _ => rfl
  have hmeasured : Engine.noting.scene.Measured := ⟨by decide, by decide⟩
  have hasking : asking.scene.HasCurrent := by decide +kernel
  have hended : ended.scene.HasCurrent := by decide +kernel
  have hsaved : ∀ happenings e, e = (session .noting happenings).state → e.scene.HasCurrent →
      e.saved.contents = e.scene.contents := by
    rintro happenings _ rfl
    exact session_saved _ Engine.noting.settings _ _ hhost hsteadfast hmeasured happenings
  exact ⟨hhost, hsteadfast, hmeasured, ⟨hasking, hsaved [click] _ rfl hasking, by decide +kernel⟩,
    hended, hsaved [click, .turn 0] _ rfl hended, by decide +kernel⟩

/-- Where a go has been overtaken, the position it has ended at is not saved. -/
theorem session_unsaved_go :
    let script : Text := "on mouseUp\ngo 3\nend mouseUp"
    let e := (session .fleeting [.ask (.dispatch "mouseUp" script none)]).state
    Engine.fleeting.presenter.Steadfast ∧ Engine.fleeting.scene.Measured ∧
      e.saved.contents ≠ e.scene.contents := by
  intro script e
  have hcurrent : ∀ {s s' : Scene}, s.current ≠ s'.current → s.contents ≠ s'.contents :=
    fun hne hcontents => hne (congrArg (fun contents => contents.2.2.2) hcontents)
  exact ⟨fun _ => rfl, ⟨by decide, by decide⟩, hcurrent (by decide +kernel)⟩

end CardTalk
