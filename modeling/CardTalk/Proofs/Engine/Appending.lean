/-
What a handler does that only puts literals behind the text in a field, and waits.

Others who do the same may change the text while the handler waits, so nothing can be said
about the text itself; what can be said is what the handler adds to it, stretch by stretch
(`Run.Adds`).  Each `put` reads the text and writes it back without a sleep in between, so that
what it adds comes behind whatever it finds, and as all that anybody does is add, nothing gets
lost.  What is added up to a sleep is the beginning of what was left to be added, and what comes
after the sleep is the rest.

A handler can fail: the presenter may refuse to show or to save, and a wait may have no
duration.  Then the dispatch reports a script error, and offers the event to others, who may do
anything.  So a run counts for nothing any more once a script error has been reported
(`Engine.reports`); where nothing can fail, none is.
-/
import CardTalk.Proofs.Conduct.Dispatch
import CardTalk.Proofs.Engine.Bubbling
import CardTalk.Proofs.Engine.Putting
import CardTalk.Engine.Post

namespace CardTalk

/-! ### Script errors -/

/-- Whether an event is the report of a script error. -/
def Event.isReport : Event → Bool
  | .log .error _ => true
  | _ => false

/-- How many script errors have been reported. -/
def Engine.reports (e : Engine) : Nat := e.trace.countP Event.isReport

/-- Reports stay. -/
def Conduct.reporting : Conduct Engine where
  holds _ := True
  leads e e' := e.reports ≤ e'.reports
  refl _ := Nat.le_refl _
  trans := Nat.le_trans
  stable _ _ := trivial

namespace Engine

/-- Whatever a host-mode script does, even past what it is offered. -/
theorem hosted_reporting : Hosted .reporting := by
  refine .of_keeps .all (fun _ => trivial) (fun _ _ _ => ⟨Nat.le_refl _, trivial⟩)
    (fun {e} _ => e.world.host.keeps_all) (fun _ _ _ => ⟨Nat.le_refl _, trivial⟩)
    fun {e} _ _ _ events => ⟨?_, trivial⟩
  exact (List.sublist_append_right events e.trace).countP_le

theorem stepwise_reporting : Stepwise .reporting where
  hosted := hosted_reporting
  aside _ haside := by
    cases haside with
    | trace x => exact (List.sublist_cons_self x _).countP_le
    | _ => exact Nat.le_refl _
  change _ _ := Nat.le_refl _
  move _ _ _ _ := Nat.le_refl _

theorem lawful_reporting : Lawful .reporting := stepwise_reporting.lawful

variable {event : Text} {origin : Option Text} {f : Fault} {e e' : Engine}

theorem Alerted.reports (h : Alerted event origin f e e') : e'.reports = e.reports + 1 := by
  rw [Engine.reports, h.trace, List.countP_append, Nat.add_comm]
  rfl

/-- A reported failure stays reported, whatever comes after the dispatch. -/
theorem Reported.lt_reports {r : Run Engine Bool} (h : Reported event origin f e r)
    {next : Bool → Action Engine Bool} (hnext : ∀ handled, (next handled).Follows .reporting) :
    e.reports < (r.bind next).state.reports := by
  cases h with
  | @shown e' h =>
      have hstays : e'.reports ≤ (next false e').state.reports := ((hnext false).run trivial).does.1
      rw [h.reports] at hstays
      exact hstays
  | @awaited e' h => exact h.reports.ge
  | @refused e' g h => exact h.reports.ge

theorem Notified.reports {outcome : Except Fault Unit} (h : Notified e e' outcome) :
    e'.reports = e.reports := by
  cases h with
  | unshown _ htrace => rw [Engine.reports, htrace]; rfl
  | unsaved _ _ htrace => rw [Engine.reports, htrace]; rfl
  | saved _ _ htrace => rw [Engine.reports, htrace]; rfl

end Engine

/-! ### Handlers that append -/

/-- Among statements are only such that put literals behind the text of a container, of which
something holds, and such that wait: these are the literals, in order. -/
inductive Script.Appends (means : Text → Prop) : List Text → List Text → Prop
  | nil : Appends means [] []
  | put {statement container v : Text} {q : Char} {statements literals : List Text}
      (hline : Line.ofText statement = .command statement) (hq : q = '"' ∨ q = '\'') (hv : q ∉ v)
      (hcommand : Command.ofStatement? statement =
        some (.put (Quote.literal q v) (some (.after, container)))) (hmeans : means container)
      (h : Appends means statements literals) :
      Appends means (statement :: statements) (v :: literals)
  | wait {statement amount : Text} {seconds : Bool} {statements literals : List Text}
      (hline : Line.ofText statement = .command statement)
      (hcommand : Command.ofStatement? statement = some (.wait amount seconds))
      (h : Appends means statements literals) : Appends means (statement :: statements) literals

theorem Script.Appends.forall_line {means : Text → Prop} {statements literals : List Text}
    (h : Appends means statements literals) :
    ∀ t ∈ statements, Line.ofText t = .command t := by
  induction h with
  | nil => simp
  | put hline _ _ _ _ _ ih => exact List.forall_mem_cons.mpr ⟨hline, ih⟩
  | wait hline _ _ ih => exact List.forall_mem_cons.mpr ⟨hline, ih⟩

/-- Whenever one of the statements is to wait, it can be told for how long. -/
def Script.Lasting (settings : Settings) (statements : List Text) : Prop :=
  ∀ statement ∈ statements, ∀ amount seconds,
    Command.ofStatement? statement = some (.wait amount seconds) →
      ∀ s : Engine × Context, s.1.settings = settings → s.1.scene.HasCurrent →
        ∀ f s', Handler.wait amount seconds s ≠ .finished (.error f) s'

namespace Handler

/-- A wait is one sleep, unless it fails. -/
theorem wait_cases (amount : Text) (seconds : Bool) (e : Engine) (c : Context) :
    (∃ f, wait amount seconds (e, c) = .finished (.error f) (e, c)) ∨
    ∃ time, wait amount seconds (e, c) =
      .asleep time ({ e with trace := .sleep time :: e.trace }, c)
        fun s => .finished (.ok ()) s := by
  let lasts : Float → Handler Unit := fun time =>
    (liftM (Engine.sleep (if time > 0 then time else 0)) : Handler Unit)
  have hsleeps : ∀ outcome : Except Fault Float,
      (∃ f, (Run.finished outcome (e, c)).bind lasts = .finished (.error f) (e, c)) ∨
      ∃ time, (Run.finished outcome (e, c)).bind lasts =
        .asleep time ({ e with trace := .sleep time :: e.trace }, c)
          fun s => .finished (.ok ()) s := by
    rintro (f | time)
    · exact .inl ⟨f, rfl⟩
    · exact .inr ⟨_, rfl⟩
  have hwait : wait amount seconds (e, c) =
      ((evaluate amount (e, c)).bind fun value => pure (numberOrZero value)).bind fun amount =>
        (if seconds then pure amount else get >>= fun s =>
          liftM (secondsOfTicks s.1.settings.ticksPerSecond amount) : Handler Float) >>= lasts := by
    cases seconds <;> rfl
  rw [evaluate_eq] at hwait
  cases hvalue : Expr.evaluate ⟨e.scene, ⟨e.registers, c⟩, e.surroundings⟩ amount with
  | error f =>
      rw [hwait, hvalue]
      exact .inl ⟨f, rfl⟩
  | ok value =>
      rw [hwait, hvalue]
      cases seconds with
      | true => exact hsleeps (.ok (numberOrZero value))
      | false => exact hsleeps (secondsOfTicks e.settings.ticksPerSecond (numberOrZero value))

/-- A wait for a number of seconds lasts. -/
theorem wait_lasts {amount value : Text} {e : Engine} {c : Context}
    (h : Expr.evaluate ⟨e.scene, ⟨e.registers, c⟩, e.surroundings⟩ amount = .ok value) (f : Fault)
    (s : Engine × Context) : wait amount true (e, c) ≠ .finished (.error f) s := by
  have hwait : wait amount true (e, c) =
      ((evaluate amount (e, c)).bind fun value => pure (numberOrZero value)).bind fun time =>
        (liftM (Engine.sleep (if time > 0 then time else 0)) : Handler Unit) := rfl
  rw [hwait, evaluate_ok h]
  exact nofun

end Handler

/-! ### What a run adds -/

/-- A run adds texts to one that others may add to as well while it sleeps: what it has added
when it sleeps or ends is the beginning of what was left, and after a sleep it goes on with the
rest, whatever the text is then.  Once the state is spoilt, anything may happen. -/
def Run.Adds {σ α : Type} (holds : Text → σ → Prop) (spoilt : σ → Prop)
    (ends : Except Fault α → List Text → Prop) : Run σ α → Text → List Text → Prop
  | finished outcome s, t, literals => ¬spoilt s →
    ∃ added left, literals = added ++ left ∧ holds (t ++ added.flatten) s ∧ ends outcome left
  | asleep _ s wake, t, literals => ¬spoilt s →
    ∃ added left, literals = added ++ left ∧ holds (t ++ added.flatten) s ∧
      ∀ t' s', holds t' s' → Adds holds spoilt ends (wake s') t' left

namespace Run.Adds

variable {σ τ α β : Type} {holds : Text → σ → Prop} {spoilt : σ → Prop}
  {ends : Except Fault α → List Text → Prop}

theorem of_spoilt {r : Run σ α} (h : spoilt r.state) (t : Text) (literals : List Text) :
    r.Adds holds spoilt ends t literals := by
  cases r with
  | finished outcome s => exact fun hnot => absurd h hnot
  | asleep seconds s wake => exact fun hnot => absurd h hnot

/-- A run that ends at once and has added nothing. -/
theorem ended {outcome : Except Fault α} {s : σ} {t : Text} {literals : List Text} (hs : holds t s)
    (h : ends outcome literals) : (finished outcome s).Adds holds spoilt ends t literals :=
  fun _ => ⟨[], literals, rfl, by rwa [List.flatten_nil, List.append_nil], h⟩

/-- A run before which a text has been added. -/
theorem cons {r : Run σ α} {t text : Text} {literals : List Text}
    (h : r.Adds holds spoilt ends (t ++ text) literals) :
    r.Adds holds spoilt ends t (text :: literals) := by
  have hflatten : ∀ added : List Text,
      t ++ (text :: added).flatten = t ++ text ++ added.flatten := fun added => by
    rw [List.flatten_cons, List.append_assoc]
  cases r with
  | finished outcome s =>
      intro hs
      obtain ⟨added, left, rfl, hholds, hends⟩ := h hs
      exact ⟨text :: added, left, rfl, (hflatten added).symm ▸ hholds, hends⟩
  | asleep seconds s wake =>
      intro hs
      obtain ⟨added, left, rfl, hholds, hwake⟩ := h hs
      exact ⟨text :: added, left, rfl, (hflatten added).symm ▸ hholds, hwake⟩

/-- A handler's own context adds nothing. -/
theorem hide {c : τ} {r : Run (σ × τ) α} {t : Text} {literals : List Text}
    (h : r.Adds (fun t s => holds t s.1 ∧ s.2 = c) (spoilt ·.1) ends t literals) :
    r.hide.Adds holds spoilt ends t literals := by
  induction r generalizing t literals with
  | finished outcome s =>
      intro hs
      obtain ⟨added, left, hadded, ⟨hholds, -⟩, hends⟩ := h hs
      exact ⟨added, left, hadded, hholds, hends⟩
  | asleep seconds s wake ih =>
      intro hs
      obtain ⟨added, left, hadded, ⟨hholds, hcontext⟩, hwake⟩ := h hs
      refine ⟨added, left, hadded, hholds, fun t' s' hs' => ?_⟩
      exact ih (s', s.2) (hwake t' (s', s.2) ⟨hs', hcontext⟩)

/-- Something that is only done with the result adds nothing. -/
theorem andThen {ends' : Except Fault β → List Text → Prop} {b : β} {r : Run σ α} {t : Text}
    {literals : List Text} (h : r.Adds holds spoilt ends t literals)
    (hok : ∀ a left, ends (.ok a) left → ends' (.ok b) left)
    (herror : ∀ f left, ends (.error f) left → ends' (.error f) left) :
    (r.bind fun _ => pure b).Adds holds spoilt ends' t literals := by
  induction r generalizing t literals with
  | finished outcome s =>
      cases outcome with
      | ok a =>
          intro hs
          obtain ⟨added, left, hadded, hholds, hends⟩ := h hs
          exact ⟨added, left, hadded, hholds, hok a left hends⟩
      | error f =>
          intro hs
          obtain ⟨added, left, hadded, hholds, hends⟩ := h hs
          exact ⟨added, left, hadded, hholds, herror f left hends⟩
  | asleep seconds s wake ih =>
      intro hs
      obtain ⟨added, left, hadded, hholds, hwake⟩ := h hs
      exact ⟨added, left, hadded, hholds, fun t' s' hs' => ih s' (hwake t' s' hs')⟩

end Run.Adds

/-! ### The engine while texts are added -/

namespace Engine

/-- The engine is as it was, but for the text that the field at a place holds. -/
structure Filled (e₀ : Engine) (place : Place) (t : Text) (e : Engine) : Prop where
  steady : Steady { e₀ with scene := e₀.scene.writing place t } e
  reports : e.reports = e₀.reports

namespace Filled

variable {e₀ e e' : Engine} {place : Place} {initial t u : Text}

theorem outline (h : Filled e₀ place t e) : e.scene.outline = e₀.scene.outline := by
  rw [← Scene.outline_takeEffects e.scene, h.steady.scene, Scene.outline_takeEffects]
  exact Scene.outline_writing ..

theorem hasCurrent (h : Filled e₀ place t e) (hcurrent : e₀.scene.HasCurrent) :
    e.scene.HasCurrent := Scene.hasCurrent_of_outline h.outline hcurrent

/-- What may happen between two changes of the text. -/
theorem steadily (h : Filled e₀ place t e) (hsteady : Steady e e')
    (hreports : e'.reports = e.reports) : Filled e₀ place t e' :=
  ⟨h.steady.trans hsteady, hreports.trans h.reports⟩

variable (hinitial : e₀.scene.textAt? place = some initial)

include hinitial

theorem start : Filled e₀ place initial e₀ := by
  refine ⟨?_, rfl⟩
  rw [Scene.writing_self hinitial]
  exact .refl e₀

theorem textAt? (h : Filled e₀ place t e) : e.scene.textAt? place = some t := by
  rw [← Scene.textAt?_takeEffects, h.steady.scene, Scene.textAt?_takeEffects]
  exact Scene.textAt?_writing hinitial t

/-- Another text is put into the field. -/
theorem writing (h : Filled e₀ place t e)
    (hsteady : Steady { e with scene := e.scene.writing place u } e')
    (hreports : e'.reports = e.reports) : Filled e₀ place u e' := by
  refine ⟨⟨?_, ?_, ?_, ?_, ?_, ?_⟩, hreports.trans h.reports⟩
  · have hscene : e.scene.takeEffects.2 = (e₀.scene.writing place t).takeEffects.2 := h.steady.scene
    rw [hsteady.scene]
    show (e.scene.writing place u).takeEffects.2 = (e₀.scene.writing place u).takeEffects.2
    rw [← Scene.writing_takeEffects, hscene, Scene.writing_takeEffects,
      Scene.writing_writing hinitial]
  · exact hsteady.registers.trans h.steady.registers
  · exact hsteady.cursor.trans h.steady.cursor
  · exact hsteady.settings.trans h.steady.settings
  · exact hsteady.failure.trans h.steady.failure
  · exact hsteady.world.trans h.steady.world

end Filled

end Engine

/-! ### The run of a handler -/

section

variable {e₀ : Engine} {place : Place} {initial : Text} {faultless : Prop}

/-- How a script ends that has literals left to add: with none, or with a fault where something
can fail. -/
def Ended {α : Type} (faultless : Prop) (a : α) (outcome : Except Fault α) (left : List Text) :
    Prop :=
  outcome = .ok a ∧ left = [] ∨ ¬faultless ∧ ∃ f, outcome = .error f

variable (hinitial : e₀.scene.textAt? place = some initial) (hcurrent : e₀.scene.HasCurrent)
  (hnever : faultless → ∀ events, e₀.presenter.failure events = none)

include hinitial hcurrent hnever

/-- A literal that is put behind the text in the field is there, however the put ends; where nothing
can fail, it ends well. -/
theorem Handler.put_fills (dispatch : Dispatch) {c : Context} {q : Char} (hq : q = '"' ∨ q = '\'')
    {v container : Text} (hv : q ∉ v) (hmeans : Means e₀.scene ⟨e₀.registers, c⟩ container place)
    {t : Text} {e : Engine} (he : Engine.Filled e₀ place t e) :
    ∃ outcome e', perform dispatch (.put (Quote.literal q v) (some (.after, container))) (e, c) =
        .finished outcome (e', c) ∧
      Engine.Filled e₀ place (t ++ v) e' ∧ (faultless → outcome = .ok ()) := by
  have hhere : Means e.scene ⟨e.registers, c⟩ container place := by
    rw [he.steady.registers]
    exact hmeans.of_outline he.outline
  let written : Engine := { e with scene := e.scene.writing place (t ++ v) }
  have hwritten : written.scene.HasCurrent :=
    Scene.hasCurrent_of_outline (Scene.outline_writing ..) (he.hasCurrent hcurrent)
  obtain ⟨outcome, e', hnotify, hsteady, -, hnotified⟩ :=
    Engine.notifyChanged_notified (e := written) hwritten
  refine ⟨outcome, e', ?_, he.writing hinitial hsteady hnotified.reports, fun hf => ?_⟩
  · rw [perform_put hq hv hhere (he.textAt? hinitial)]
    exact congrArg (Run.beside c) hnotify
  · exact hnotified.ok fun events => by rw [← hnever hf events, ← he.steady.failure]

/-- The statements add the literals. -/
theorem Handler.runNodes_adds (dispatch : Dispatch) {c : Context}
    {statements literals : List Text}
    (h : Script.Appends (Means e₀.scene ⟨e₀.registers, c⟩ · place) statements literals)
    (hlasting : faultless → Script.Lasting e₀.settings statements) :
    ∀ t e, Engine.Filled e₀ place t e →
      (runNodes dispatch (statements.map .command) (e, c)).Adds
        (fun t s => Engine.Filled e₀ place t s.1 ∧ s.2 = c) (fun _ => False)
        (Ended faultless ()) t literals := by
  induction h with
  | nil =>
      intro t e he
      have hnil : runNodes dispatch [] (e, c) = .finished (.ok ()) (e, c) := by
        rw [runNodes]
        rfl
      rw [List.map_nil, hnil]
      exact .ended ⟨he, rfl⟩ (.inl ⟨rfl, rfl⟩)
  | @put statement container v q statements literals hline hq hv hcommand hmeans h ih =>
      intro t e he
      have hrest := ih fun hf st hst => hlasting hf st (List.mem_cons_of_mem _ hst)
      obtain ⟨outcome, e', hperform, he', hok⟩ :=
        put_fills hinitial hcurrent hnever dispatch hq hv hmeans he
      rw [List.map_cons, runNodes_cons dispatch hcommand, hperform]
      cases outcome with
      | ok _ => exact .cons (hrest _ _ he')
      | error f =>
          refine .cons (.ended ⟨he', rfl⟩ (.inr ⟨fun hf => ?_, f, rfl⟩))
          cases hok hf
  | @wait statement amount seconds statements literals hline hcommand h ih =>
      intro t e he
      have hrest := ih fun hf st hst => hlasting hf st (List.mem_cons_of_mem _ hst)
      have hperform : perform dispatch (.wait amount seconds) = wait amount seconds := rfl
      rw [List.map_cons, runNodes_cons dispatch hcommand, hperform]
      obtain ⟨f, hfails⟩ | ⟨time, hsleeps⟩ := wait_cases amount seconds e c
      · rw [hfails]
        refine .ended ⟨he, rfl⟩ (.inr ⟨fun hf => ?_, f, rfl⟩)
        exact hlasting hf statement List.mem_cons_self amount seconds hcommand (e, c)
          he.steady.settings (he.hasCurrent hcurrent) f _ hfails
      · rw [hsleeps]
        have hslept : Engine.Filled e₀ place t { e with trace := .sleep time :: e.trace } :=
          he.steadily ⟨rfl, rfl, rfl, rfl, rfl, rfl⟩ rfl
        refine fun _ => ⟨[], literals, rfl, ⟨by rwa [List.flatten_nil, List.append_nil], rfl⟩, ?_⟩
        rintro t' ⟨e', c'⟩ ⟨he', rfl⟩
        exact hrest _ _ he'

/-- The script of a handler adds the literals. -/
theorem Engine.runScript_adds (dispatch : Dispatch) {script event : Text} {origin : Option Text}
    {body literals : List Text}
    (hhost : ¬e₀.settings.hostMarker.any (Script.isHostMode script))
    (hbody : Script.handler? (Script.statements script) event = some body)
    (h : Script.Appends (Handler.Means e₀.scene ⟨e₀.registers, { origin }⟩ · place) body literals)
    (hlasting : faultless → Script.Lasting e₀.settings body) {t : Text} {e : Engine}
    (he : Filled e₀ place t e) :
    (runScript dispatch script event origin e).Adds (Filled e₀ place) (fun _ => False)
      (Ended faultless true) t literals := by
  have hrun : runScript dispatch script event origin e =
      ((Handler.runStatements dispatch body (e, { origin })).hide).bind fun _ => pure true := by
    show (if e.settings.hostMarker.any (Script.isHostMode script) then _ else
      runHandler dispatch (Script.statements script) event origin : Action Engine Bool) e = _
    rw [he.steady.settings, if_neg hhost, runHandler, hbody]
    rfl
  have hstatements := Handler.runNodes_adds hinitial hcurrent hnever dispatch h hlasting t e he
  rw [hrun, Handler.runStatements_commands dispatch h.forall_line]
  refine hstatements.hide.andThen (fun _ left hends => ?_) fun f left hends => ?_
  · obtain ⟨-, hdone⟩ | ⟨-, _, ⟨⟩⟩ := hends
    exact .inl ⟨rfl, hdone⟩
  · obtain ⟨⟨⟩, -⟩ | ⟨hfailed, -⟩ := hends
    exact .inr ⟨hfailed, f, rfl⟩

end

/-- Something can fail, and a script error has been reported. -/
def Engine.Spoilt (e₀ : Engine) (faultless : Prop) (e : Engine) : Prop :=
  ¬faultless ∧ e.reports ≠ e₀.reports

/-- An event has been handled by a script that has added all its literals. -/
def Served (outcome : Except Fault Bool) (left : List Text) : Prop := outcome = .ok true ∧ left = []

/-- Where a script adds literals, so does its dispatch and all that comes after it: nothing comes
after it unless it fails. -/
theorem Engine.Dispatched.adds {event : Text} {origin : Option Text} {r r' : Run Engine Bool}
    (hdispatched : Dispatched event origin r r') {e₀ : Engine} {place : Place} {faultless : Prop}
    {next : Bool → Action Engine Bool} (htrue : next true = pure true)
    (hnext : ∀ handled, (next handled).Follows .reporting) {t : Text} {literals : List Text}
    (h : r.Adds (Filled e₀ place) (fun _ => False) (Ended faultless true) t literals) :
    (r'.bind next).Adds (Filled e₀ place) (Spoilt e₀ faultless) Served t literals := by
  induction hdispatched generalizing t literals with
  | @handled handled e =>
      obtain ⟨added, left, hadded, hholds, hends⟩ := h not_false
      obtain ⟨hhandled, hleft⟩ | ⟨-, f, hf⟩ := hends
      · obtain rfl : handled = true := Except.ok.inj hhandled
        show (next true e).Adds _ _ _ _ _
        rw [htrue]
        exact fun _ => ⟨added, left, hadded, hholds, rfl, hleft⟩
      · exact nomatch hf
  | @failed f e r' hreported =>
      obtain ⟨added, left, hadded, hholds, hends⟩ := h not_false
      obtain ⟨hok, -⟩ | ⟨hfault, -⟩ := hends
      · exact nomatch hok
      · refine .of_spoilt ⟨hfault, ?_⟩ t literals
        rw [← hholds.reports]
        exact (hreported.lt_reports hnext).ne'
  | asleep _ ih =>
      obtain ⟨added, left, hadded, hholds, hwake⟩ := h not_false
      exact fun _ => ⟨added, left, hadded, hholds, fun t' e' he' => ih e' (hwake t' e' he')⟩

/-! ### Who appends -/

namespace Scene

/-- The script of the object that an event comes from. -/
def originScript? (s : Scene) (origin : Option Text) : Option Text := do
  let c ← s.cards[s.current]?
  let place ← s.origin? c origin
  return (← s.entity? place).script

theorem origin?_outline (s : Scene) (c : Card) (origin : Option Text) :
    s.outline.origin? c.outline origin = s.origin? c origin := by
  unfold origin?
  split
  · rfl
  · rfl
  · rw [near_outline]
    exact find?_emptied (f := fun p => p.id == _) (fun p => by rw [Part.withContent_id]) _

theorem originScript?_outline (s : Scene) (origin : Option Text) :
    s.outline.originScript? origin = s.originScript? origin := by
  have hcards : s.outline.cards[s.outline.current]? = s.cards[s.current]?.map Card.outline :=
    List.getElem?_map ..
  unfold originScript?
  rw [hcards]
  cases s.cards[s.current]? with
  | none => rfl
  | some c =>
      simp only [Option.map_some, bind, Option.bind_some, origin?_outline, entity?_outline,
        Option.bind_map, Function.comp_def, Entity.outline_script]

end Scene

namespace Engine

/-- The statements of the handler that the object of a posted event has for it. -/
def handlerOf? (e : Engine) (post : Post) : Option (List Text) := do
  let script ← e.scene.originScript? post.origin
  if Text.allBlank script || e.settings.hostMarker.any (Script.isHostMode script) then none
  else Script.handler? (Script.statements script) post.event

/-- The object of a posted event has a handler for it that puts these literals, one after the
other, behind the text in the field at a place. -/
def Appends (e : Engine) (place : Place) (post : Post) (literals : List Text) : Prop :=
  ∃ body, e.handlerOf? post = some body ∧
    Script.Appends (Handler.Means e.scene ⟨e.registers, { origin := post.origin }⟩ · place) body
      literals

/-- An event whose object handles it runs the script of the object, and then what comes after a
dispatch. -/
theorem offer_eq {e : Engine} {post : Post} {script : Text}
    (hscript : e.scene.originScript? post.origin = some script) :
    ∃ next : Bool → Action Engine Bool, next true = pure true ∧
      (∀ handled, (next handled).Follows .reporting) ∧
      offer post.event post.origin e = (dispatch post.event script post.origin e).bind next := by
  obtain ⟨c, hcard, hplace⟩ := Option.bind_eq_some_iff.mp hscript
  obtain ⟨place, horigin, hentity⟩ := Option.bind_eq_some_iff.mp hplace
  obtain ⟨x, hx, hx'⟩ := Option.bind_eq_some_iff.mp hentity
  obtain rfl : x.script = script := Option.some.inj hx'
  obtain ⟨rest, hpath⟩ : ∃ rest, e.scene.path c post.origin = place :: rest := by
    rw [Scene.path, horigin]
    exact ⟨_, rfl⟩
  have hscriptOf : e.scene.scriptOf (e.scene.refer place) = x.script := by
    rw [Scene.scriptOf_refer, hx]
    rfl
  have hoffer : offer post.event post.origin e = (liftM (e.scene.candidates post.origin) >>=
      fun places => offerTo dispatch post.event post.origin (places.map e.scene.refer)
        : Action Engine Bool) e := rfl
  refine ⟨fun handled => if handled then pure true else
    offerTo dispatch post.event post.origin (rest.map e.scene.refer), rfl, fun handled => ?_, ?_⟩
  · exact .ite (.pure _) (Fair.offerTo lawful_reporting.fair.dispatch ..)
  · rw [hoffer, Scene.candidates_eq hcard, hpath, ← hscriptOf]
    rfl

/-- **An event whose object appends adds its literals**, whoever else adds something while the
handler sleeps. -/
theorem offer_adds {e₀ : Engine} {place : Place} {initial : Text} {faultless : Prop}
    (hinitial : e₀.scene.textAt? place = some initial)
    (hnever : faultless → ∀ events, e₀.presenter.failure events = none) {post : Post}
    {literals : List Text} (h : e₀.Appends place post literals)
    (hlasting : faultless → ∀ body, e₀.handlerOf? post = some body →
      Script.Lasting e₀.settings body) {t : Text} {e : Engine} (he : Filled e₀ place t e) :
    (offer post.event post.origin e).Adds (Filled e₀ place) (Spoilt e₀ faultless) Served t
      literals := by
  obtain ⟨body, hbody, happends⟩ := h
  obtain ⟨script, hscript, hhandler⟩ := Option.bind_eq_some_iff.mp hbody
  have hcurrent : e₀.scene.HasCurrent := by
    obtain ⟨c, hcard, -⟩ := Option.bind_eq_some_iff.mp hscript
    exact (List.getElem?_eq_some_iff.mp hcard).1
  have hhere : e.scene.originScript? post.origin = some script := by
    rw [← hscript, ← Scene.originScript?_outline, he.outline, Scene.originScript?_outline]
  obtain ⟨next, htrue, hnext, hoffer⟩ := offer_eq hhere
  rw [hoffer]
  by_cases hpassed : Text.allBlank script || e₀.settings.hostMarker.any (Script.isHostMode script)
  · rw [if_pos hpassed] at hhandler
    exact nomatch hhandler
  · rw [if_neg hpassed] at hhandler
    obtain ⟨hblank, hhost⟩ := not_or.mp (mt Bool.or_eq_true_iff.mpr hpassed)
    have hrun := runScript_adds hinitial hcurrent hnever (dispatchAt 199) hhost hhandler happends
      (fun hf => hlasting hf body hbody) he
    have hdispatch : dispatch post.event script post.origin e =
        dispatchWith (dispatchAt 199) post.event script post.origin e := rfl
    rw [hdispatch, dispatchWith_eq, if_neg hblank]
    exact (dispatched_attempt post.event post.origin _).adds htrue hnext hrun

end Engine

end CardTalk
