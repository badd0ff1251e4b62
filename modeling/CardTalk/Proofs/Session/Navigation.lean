/-
Where the user is after whatever happened.

Every session records what it does to navigation (`session_navigation`), so navigation is well
formed throughout exactly when no go was overtaken: its position was looked up, handlers of
the card that was left then deleted cards, and the move went to the position all the same.
`session_overtaken` is a session where that happens.
-/
import CardTalk.Proofs.Scene.Navigation
import CardTalk.Proofs.Session.Basic
import CardTalk.Proofs.Host.Line

namespace CardTalk

/-! ### Navigation as a conduct -/

/-- Navigation comes from a start by recorded edits, and edits are never forgotten.  Host-mode
scripts keep to what they are offered, which does not touch it. -/
def Conduct.navigation (start : Navigation) : Conduct Engine where
  holds e := e.world.host.Keeps .offered ∧ e.scene.Recorded start
  leads e e' := e'.world = e.world ∧ e.scene.edits <:+ e'.scene.edits ∧ e'.scene.Recorded start
  refl h := ⟨rfl, List.suffix_refl _, h.2⟩
  trans h h' := ⟨h'.1.trans h.1, h.2.1.trans h'.2.1, h'.2.2⟩
  stable h hs := ⟨h.1 ▸ hs.1, h.2.2⟩

namespace Scene

/-- Whatever leaves navigation alone keeps the record. -/
theorem Recorded.stays {start : Navigation} {s s' : Scene} (h : s.Recorded start)
    (hsame : s'.navigation = s.navigation ∧ s'.edits = s.edits) :
    s.edits <:+ s'.edits ∧ s'.Recorded start :=
  ⟨hsame.2 ▸ List.suffix_refl _, h.same hsame.1 hsame.2⟩

end Scene

namespace Engine

theorem hosted_navigation (start : Navigation) : Hosted (.navigation start) := by
  refine .of_keeps .offered (fun _ => trivial) (fun he _ _ => ?_) (fun he => he.1)
    (fun he _ r => ?_) fun _ hreach => hreach.elim
  · exact ⟨⟨rfl, he.2.stays ⟨rfl, rfl⟩⟩, trivial⟩
  · exact ⟨⟨rfl, he.2.stays (Scene.rewrite_navigation ..)⟩, trivial⟩

theorem stepwise_navigation (start : Navigation) : Stepwise (.navigation start) where
  hosted := hosted_navigation start
  aside {e e'} he haside := by
    cases haside with
    | trace | «show» | save | registers | cursor | idling | effects =>
        exact ⟨rfl, he.2.stays ⟨rfl, rfl⟩⟩
    | breakOff => exact ⟨rfl, he.2.stays (Scene.replace_navigation ..)⟩
    | stay hi =>
        exact ⟨rfl, he.2.moveTo true (he.2.admits_resolved (List.suffix_refl _) hi true)⟩
  change {e s} he hchange := by
    cases hchange with
    | replace => exact ⟨rfl, he.2.stays (Scene.replace_navigation ..)⟩
    | add hadd => exact ⟨rfl, he.2.addCard hadd⟩
    | delete hdelete => exact ⟨rfl, he.2.deleteCard hdelete⟩
  move {e e'} _ i back he hi hle :=
    ⟨rfl, hle.2.2.moveTo back (he.2.admits_resolved hle.2.1 hi back)⟩

theorem lawful_navigation (start : Navigation) : Lawful (.navigation start) :=
  (stepwise_navigation start).lawful

end Engine

/-! ### Every session -/

/-- **After every session there is a card, navigation is what the recorded edits make of it,
and it has been well formed throughout if and only if no go was overtaken.**  The edits of
a session begin with those of any shorter one, so throughout means after every step.
Whatever runs the host-mode scripts, only what they are offered matters: its methods, and the
entities with all that can be written into them. -/
theorem session_navigation (stack : Stack) (backgrounds : List Background) (cards : List Card)
    (position : Int) (issued : Nat) (settings : Settings) (presenter : Presenter)
    (world : World) (hhost : world.host.Keeps .offered) (happenings : List Happening) :
    let scene := Scene.assemble stack backgrounds cards position issued
    let e := Engine.new scene settings presenter world
    let start := scene.navigation
    let s := (session e happenings).state.scene
    0 < s.cards.length ∧ s.navigation = start.replay s.edits ∧
      (∀ earlier, earlier <+: happenings → (session e earlier).state.scene.edits <:+ s.edits) ∧
      ((∀ past, past <:+ s.edits → (start.replay past).WellFormed) ↔
        ∀ i back since before, .moved i back :: (since ++ before) <:+ s.edits →
          ¬start.Overtaken i before since) := by
  intro scene e start s
  have hstart : start.WellFormed := Scene.assemble_wellFormed ..
  have hrecorded : e.world.host.Keeps .offered ∧ e.scene.Recorded start :=
    ⟨hhost, Scene.recorded_self rfl⟩
  have hlawful := Engine.lawful_navigation start
  have hs : s.Recorded start := (session_obeys hlawful hrecorded happenings).1.holds.2
  refine ⟨hs.nonempty hstart, hs.replayed, ?_, hs.wellFormed_iff hstart⟩
  rintro earlier ⟨later, rfl⟩
  have hobeys := (session_obeys hlawful hrecorded earlier).1
  have hle := (happenings_obey hlawful hobeys later).2
  rw [← session_append] at hle
  exact hle.2.1

/-- Three cards, the first of which deletes the current card whenever it is told of anything. -/
def Card.fleeting : List Card :=
  [{ Card.usual "a" "A" with script := "-- @lua\nscene.delete_card()" }, .usual "b" "B",
    .usual "c" "C"]

/-- A silent engine on these cards. -/
def Engine.fleeting : Engine :=
  .new (.assemble (.usual "s") [] Card.fleeting 0 0)
    { hostMarker := some "-- @lua", repeatLimit := .null, ticksPerSecond := .null
      serializeEvents := .ok true, idleInterval := .ok .null, isServed := .ok false }
    { console := none, replies := [], failure := fun _ => none }
    (.still .bare)

/-- Going to the third card from the first, which deletes itself when it is left, is overtaken. -/
theorem session_navigation_fleeting :
    let script : Text := "on mouseUp\ngo 3\nend mouseUp"
    let start := Engine.fleeting.scene.navigation
    let s := (session .fleeting [.ask (.dispatch "mouseUp" script none)]).state.scene
    Engine.fleeting.world.host.Keeps .offered ∧ 0 < s.cards.length ∧
      s.navigation = start.replay s.edits ∧
      ∃ i back since before, .moved i back :: (since ++ before) <:+ s.edits ∧
        start.Overtaken i before since := by
  intro script start s
  have hhost : Engine.fleeting.world.host.Keeps .offered := World.still_keeps_offered _ _
  have hall := fun happenings => session_navigation (.usual "s") [] Card.fleeting 0 0
    Engine.fleeting.settings Engine.fleeting.presenter Engine.fleeting.world hhost happenings
  have hfleeting : Engine.new (.assemble (.usual "s") [] Card.fleeting 0 0)
    Engine.fleeting.settings Engine.fleeting.presenter Engine.fleeting.world = .fleeting := rfl
  simp only [hfleeting] at hall
  obtain ⟨hpos, hreplayed, -, hwellFormed⟩ := hall [.ask (.dispatch "mouseUp" script none)]
  refine ⟨hhost, hpos, hreplayed, ?_⟩
  have hbeyond : ¬s.navigation.WellFormed := by decide +kernel
  rw [hreplayed] at hbeyond
  refine Classical.byContradiction fun hnone => hbeyond ?_
  refine hwellFormed.mpr (fun i back since before hmove hovertaken => ?_) _ (List.suffix_refl _)
  exact hnone ⟨i, back, since, before, hmove, hovertaken⟩

/-- Going to the third card from the first, which deletes itself when it is left, ends beyond
the two cards that remain. -/
theorem session_overtaken :
    let script : Text := "on mouseUp\ngo 3\nend mouseUp"
    let n := (session .fleeting [.ask (.dispatch "mouseUp" script none)]).state.scene.navigation
    n = ⟨2, 2, [0]⟩ ∧ ¬n.WellFormed := by
  decide +kernel

end CardTalk
