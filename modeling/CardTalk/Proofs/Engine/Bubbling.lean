/-
An event bubbles up to the first script that handles it.

The candidates are fixed when the event comes: the object it comes from, the current card, its
background and the stack (`Scene.candidates_eq`).  Handlers run in between may do anything to the
engine, their own scripts and those of later candidates included, and others may as well
whenever a handler sleeps; so what happens is a relation between the candidates, the engine
they find, and a run (`Bubbles`).  A candidate that ignores the event is passed over where the
engine stands; every other one is dispatched, and the next one has its turn in the engine that
is left when the dispatch has ended with the answer that the event was not handled.  An offer
is the one run that is related so to its candidates (`offerWith_bubbles`).
-/
import CardTalk.Proofs.Engine.Reporting
import CardTalk.Proofs.Find.Enumeration
import CardTalk.Host.Line.Runtime

namespace CardTalk

namespace Engine

/-! ### What an offer does -/

section

variable (event : Text) (dispatch : Text → Action Engine Bool)

mutual

/-- An event is offered to candidates who find an engine: what happens to it then. -/
inductive Bubbles : List Reference → Engine → Run Engine Bool → Prop
  | unhandled {e : Engine} : Bubbles [] e (.finished (.ok false) e)
  /-- A candidate that ignores the event leaves no trace. -/
  | ignored {candidate : Reference} {rest : List Reference} {e : Engine} {r : Run Engine Bool}
      (hscript : e.Ignores event (e.scene.scriptOf candidate)) (h : Bubbles rest e r) :
      Bubbles (candidate :: rest) e r
  /-- Any other one is dispatched with the script that it has now. -/
  | offered {candidate : Reference} {rest : List Reference} {e : Engine} {r : Run Engine Bool}
      (hscript : ¬e.Ignores event (e.scene.scriptOf candidate))
      (h : BubblesOn rest (dispatch (e.scene.scriptOf candidate) e) r) :
      Bubbles (candidate :: rest) e r

/-- A candidate is being dispatched and others come after it: what happens then.  Nobody else
is dispatched before its own dispatch has ended. -/
inductive BubblesOn : List Reference → Run Engine Bool → Run Engine Bool → Prop
  | handled {rest : List Reference} {e : Engine} :
      BubblesOn rest (.finished (.ok true) e) (.finished (.ok true) e)
  | next {rest : List Reference} {e : Engine} {r : Run Engine Bool} (h : Bubbles rest e r) :
      BubblesOn rest (.finished (.ok false) e) r
  | failed {rest : List Reference} {e : Engine} {f : Fault} :
      BubblesOn rest (.finished (.error f) e) (.finished (.error f) e)
  | asleep {rest : List Reference} {seconds : Float} {e : Engine}
      {wake wake' : Engine → Run Engine Bool} (h : ∀ e', BubblesOn rest (wake e') (wake' e')) :
      BubblesOn rest (.asleep seconds e wake) (.asleep seconds e wake')

end

end

variable {event : Text} {origin : Option Text} {dispatch : Dispatch}

/-- While a candidate is being dispatched, what happens is its run with the rest behind it, if
that goes for the rest. -/
theorem bubblesOn_iff {rest : List Reference}
    (hrest : ∀ e r, Bubbles event (dispatch event · origin) rest e r ↔
      offerTo dispatch event origin rest e = r) (first r : Run Engine Bool) :
    BubblesOn event (dispatch event · origin) rest first r ↔
      (first.bind fun handled => if handled then pure true
        else offerTo dispatch event origin rest) = r := by
  induction first generalizing r with
  | finished outcome e =>
      constructor
      · intro h
        cases h with
        | handled => rfl
        | failed => rfl
        | next h => exact (hrest _ _).mp h
      · rintro rfl
        match outcome with
        | .ok true => exact .handled
        | .ok false => exact .next ((hrest _ _).mpr rfl)
        | .error f => exact .failed
  | asleep seconds e wake ih =>
      constructor
      · intro h
        cases h with
        | asleep h => exact congrArg (Run.asleep seconds e) (funext fun e' => (ih e' _).mp (h e'))
      · rintro rfl
        exact .asleep fun e' => (ih e' _).mpr rfl

/-- An offer is the one run that its candidates and the engine they find make. -/
theorem bubbles_iff
    (hignored : ∀ {e : Engine} {script}, e.Ignores event script →
      dispatch event script origin e = .finished (.ok false) e) :
    ∀ candidates e r, Bubbles event (dispatch event · origin) candidates e r ↔
      offerTo dispatch event origin candidates e = r := by
  intro candidates
  induction candidates with
  | nil =>
      intro e r
      constructor
      · intro h
        cases h
        rfl
      · rintro rfl
        exact .unhandled
  | cons candidate rest ih =>
      intro e r
      have hcons : offerTo dispatch event origin (candidate :: rest) e =
          (dispatch event (e.scene.scriptOf candidate) origin e).bind fun handled =>
            if handled then pure true else offerTo dispatch event origin rest := rfl
      rw [hcons]
      by_cases hscript : e.Ignores event (e.scene.scriptOf candidate)
      · have hskip := hignored hscript
        rw [hskip]
        refine Iff.trans ⟨fun h => ?_, fun h => .ignored hscript h⟩ (ih e r)
        cases h with
        | ignored _ h => exact h
        | offered hheard => exact absurd hscript hheard
      · refine Iff.trans ⟨fun h => ?_, fun h => .offered hscript h⟩ (bubblesOn_iff ih _ r)
        cases h with
        | ignored hnot => exact absurd hnot hscript
        | offered _ h => exact h

/-! ### How an offer ends -/

theorem offerTo_ends
    (hends : ∀ script e, (dispatch event script origin e).Ends Concluded) :
    ∀ candidates e, (offerTo dispatch event origin candidates e).Ends Concluded := by
  intro candidates
  induction candidates with
  | nil => exact fun _ => .inl ⟨false, rfl⟩
  | cons candidate rest ih =>
      refine fun e => (hends (e.scene.scriptOf candidate) e).bind (fun handled e' _ => ?_)
        fun _ _ h => h
      cases handled with
      | true => exact .inl ⟨true, rfl⟩
      | false => exact ih e'

theorem dispatchWith_ends (dispatch : Dispatch) (event script : Text) (origin : Option Text)
    (e : Engine) : (dispatchWith dispatch event script origin e).Ends Concluded := by
  rw [dispatchWith_eq]
  by_cases hblank : Text.allBlank script = true
  · rw [if_pos hblank]
    exact .inl ⟨false, rfl⟩
  · rw [if_neg hblank]
    exact (dispatched_attempt event origin _).ends

/-- **An event that comes while the user is on a card bubbles from the object it comes from to the
card, the background and the stack, and runs the first handler that does not fail.**  Each of
these is passed over without a trace if its script ignores the event, and otherwise dispatched,
on behalf of the object the event comes from, after the dispatches before it have ended with
the answer that the event was not handled; the first one that ends otherwise settles the offer.
An offer answers unless a dispatch fails, which takes a presenter that refuses the alert about a
script.  There is no offer when the user is on no card. -/
theorem offerWith_bubbles (depth : Nat) (event : Text) (origin : Option Text) (e : Engine) :
    let dispatch := dispatchAt (depth + 1)
    (∀ c, e.scene.cards[e.scene.current]? = some c →
      (∀ r, Bubbles event (dispatch event · origin) ((e.scene.path c origin).map e.scene.refer) e r ↔
        offerWith dispatch event origin e = r) ∧
      (offerWith dispatch event origin e).Ends Concluded) ∧
    (¬e.scene.HasCurrent →
      offerWith dispatch event origin e = .finished (.error .noCurrentCard) e) := by
  intro dispatch
  refine ⟨fun c hcard => ?_, fun hcurrent => ?_⟩
  · rw [offerWith_eq hcard]
    refine ⟨bubbles_iff (dispatchAt_ignored depth origin) _ e, ?_⟩
    exact offerTo_ends (fun script => dispatchWith_ends (dispatchAt depth) event script origin) _ e
  · show (liftM (e.scene.candidates origin) >>= fun places =>
      offerTo dispatch event origin (places.map e.scene.refer) : Action Engine Bool) e = _
    rw [Scene.candidates_nowhere hcurrent]
    rfl

/-- An engine on one card with a button whose script fails, and a stack with a script; the card
has none. -/
def layered : Engine :=
  let button : Part :=
    { id := "b", name := "Button", rect := ⟨.float 0, .float 0, .float 80, .float 20⟩
      visible := true, script := "on mouseUp\ngo 9\nend mouseUp", layer := "card"
      rotation := .float 0, body := .button "Button" "rounded" [] [] (.float 16) true }
  let script : Text := "on mouseUp\nput the target into it\nend mouseUp"
  .new (.assemble { Stack.usual "s" with script } []
      [{ Card.usual "a" "A" with parts := [button] }] 0 0)
    { hostMarker := some "-- @lua", repeatLimit := .null, ticksPerSecond := .null
      serializeEvents := .ok true, idleInterval := .ok .null, isServed := .ok false }
    { console := none, replies := [], failure := fun _ => none }
    (.still .bare)

/-- The button fails, the card and its background ignore the event, and the stack handles it on
behalf of the button. -/
theorem offerWith_bubbles_layered :
    ∃ c, layered.scene.cards[layered.scene.current]? = some c ∧
      Bubbles "mouseUp" (dispatchAt 200 "mouseUp" · (some "b"))
        ((layered.scene.path c (some "b")).map layered.scene.refer) layered
        (offerWith (dispatchAt 200) "mouseUp" (some "b") layered) ∧
      (offer "mouseUp" (some "b") layered).complete.1 = .ok true ∧
      (offer "mouseUp" (some "b") layered).complete.2.registers.it = "b" := by
  have hcurrent : layered.scene.HasCurrent := by decide +kernel
  have hcard := List.getElem?_eq_getElem hcurrent
  obtain ⟨hbubbles, -⟩ := (offerWith_bubbles 199 "mouseUp" (some "b") layered).1 _ hcard
  exact ⟨_, hcard, (hbubbles _).mpr rfl, by decide +kernel, by decide +kernel⟩

end Engine

end CardTalk
