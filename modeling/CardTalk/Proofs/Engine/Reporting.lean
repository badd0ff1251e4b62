/-
What a dispatch does when its script fails.

The run of a dispatch is the run of its script, sleep by sleep, up to the end: a script that
runs to its end is passed on, and one that fails is logged, beeped and shown in one alert, and
counts as not handled (`Dispatched`).  That alert is a call of the presenter like any other and
nothing guards it, while the beep before it may fail without consequence.  So a dispatch fails
if and only if the presenter refuses the alert, and then with the presenter's own fault:
`dispatch_reports`.

All of this holds of every dispatch, at whatever depth it is nested, whatever others do to the
engine while it sleeps and whichever calls of the presenter fail.
-/
import CardTalk.Proofs.Engine.Outside
import CardTalk.Engine.Dispatch
import CardTalk.Scene.Definition
import CardTalk.Host.Line.Runtime
import Mathlib.Data.List.Basic

namespace CardTalk

/-- However a run goes on after its sleeps, it ends like this. -/
def Run.Ends {σ α : Type} (P : Except Fault α → σ → Prop) : Run σ α → Prop
  | finished outcome s => P outcome s
  | asleep _ _ wake => ∀ s, Ends P (wake s)

theorem Run.Ends.bind {σ α β : Type} {P : Except Fault α → σ → Prop}
    {Q : Except Fault β → σ → Prop} {r : Run σ α} {next : α → Action σ β} (h : r.Ends P)
    (hok : ∀ a s, P (.ok a) s → (next a s).Ends Q)
    (herror : ∀ f s, P (.error f) s → Q (.error f) s) : (r.bind next).Ends Q := by
  induction r with
  | finished outcome s =>
      cases outcome with
      | ok a => exact hok a s h
      | error f => exact herror f s h
  | asleep seconds s wake ih => exact fun s' => ih s' (h s')

namespace Engine

variable {e e' : Engine}

/-! ### Calls with the events they add -/

theorem beep_traced (e : Engine) :
    ∃ e', beep e = .finished (.ok ()) e' ∧ Steady e e' ∧ e'.trace = .beep :: e.trace := by
  have hbeep : beep e = ((call .beep e).bind fun _ =>
      onConsole fun c => c.write ['\x07']).attempt.bind fun _ => pure () := rfl
  rw [hbeep, call_eq]
  cases e.presenter.failure (.beep :: e.trace) with
  | some f => exact ⟨_, rfl, ⟨rfl, rfl, rfl, rfl, rfl, rfl⟩, rfl⟩
  | none => exact ⟨_, rfl, ⟨rfl, rfl, rfl, rfl, rfl, rfl⟩, rfl⟩

/-- An alert is one call.  If it does not fail, it has its answer at once or after a sleep. -/
theorem alert_traced (title message : Text) (e : Engine) :
    ∃ e', Steady e e' ∧ e'.trace = .alert title message :: e.trace ∧
      match e.presenter.failure e'.trace with
      | some g => alert title message e = .finished (.error g) e'
      | none => alert title message e = .finished (.ok ()) e' ∨
          alert title message e = .asleep 0 e' fun s => .finished (.ok ()) s := by
  obtain ⟨shown, halert⟩ : ∃ shown : Console → Console, alert title message e =
      (call (.alert title message) e).bind fun _ => onConsole shown >>= fun _ => Engine.await :=
    ⟨_, rfl⟩
  rw [halert, call_eq]
  cases hfailure : e.presenter.failure (.alert title message :: e.trace) with
  | some g =>
      refine ⟨{ e with trace := .alert title message :: e.trace },
        ⟨rfl, rfl, rfl, rfl, rfl, rfl⟩, rfl, ?_⟩
      dsimp only
      rw [hfailure]
      rfl
  | none =>
      refine ⟨{ e with
        trace := .alert title message :: e.trace
        presenter := { e.presenter with console := e.presenter.console.map shown } },
        ⟨rfl, rfl, rfl, rfl, rfl, rfl⟩, rfl, ?_⟩
      dsimp only
      rw [hfailure]
      dsimp only
      by_cases hslow : e.world.isSlow (.alert title message :: e.trace) = true
      · refine .inr ?_
        show (if e.world.isSlow _ then Action.sleep 0
          else pure () : Action Engine Unit) _ = _
        rw [if_pos hslow]
        rfl
      · refine .inl ?_
        show (if e.world.isSlow _ then Action.sleep 0
          else pure () : Action Engine Unit) _ = _
        rw [if_neg hslow]
        rfl

/-! ### A failure is reported -/

/-- What reporting a failure adds to the events, the latest first: a log entry, a beep and one
alert. -/
def report (event : Text) (origin : Option Text) (f : Fault) : List Event :=
  [.alert "Script Error" f.message, .beep,
    .log .error (("Script error in " : Text) ++ event ++ " handler (source=" ++
      origin.getD "None" ++ ")")]

/-- A failure has been reported, which leaves the rest of the engine as it is. -/
structure Alerted (event : Text) (origin : Option Text) (f : Fault) (e e' : Engine) : Prop where
  trace : e'.trace = report event origin f ++ e.trace
  steady : Steady e e'

/-- How a dispatch goes on when its script has failed: it reports the failure, and then that the
event was not handled, unless the presenter refuses the alert. -/
inductive Reported (event : Text) (origin : Option Text) (f : Fault) (e : Engine) :
    Run Engine Bool → Prop
  | shown {e' : Engine} (h : Alerted event origin f e e')
      (haccepted : e'.presenter.failure e'.trace = none) :
      Reported event origin f e (.finished (.ok false) e')
  | awaited {e' : Engine} (h : Alerted event origin f e e')
      (haccepted : e'.presenter.failure e'.trace = none) :
      Reported event origin f e (.asleep 0 e' fun e'' => .finished (.ok false) e'')
  | refused {e' : Engine} {g : Fault} (h : Alerted event origin f e e')
      (hrefused : e'.presenter.failure e'.trace = some g) :
      Reported event origin f e (.finished (.error g) e')

theorem reportFailure_reported (event : Text) (origin : Option Text) (f : Fault) (e : Engine) :
    Reported event origin f e ((reportFailure event origin f e).bind fun _ => pure false) := by
  let entry : Event := .log .error (("Script error in " : Text) ++ event ++ " handler (source=" ++
    origin.getD "None" ++ ")")
  let logged : Engine := { e with trace := entry :: e.trace }
  have hlogged : Steady e logged := ⟨rfl, rfl, rfl, rfl, rfl, rfl⟩
  have hreport : reportFailure event origin f e =
      (beep logged).bind fun _ => alert "Script Error" f.message := rfl
  obtain ⟨beeped, hbeep, hbeeped, hbeeptrace⟩ := beep_traced logged
  obtain ⟨e', hsteady, htrace, halert⟩ := alert_traced "Script Error" f.message beeped
  have halerted : Alerted event origin f e e' := by
    refine ⟨?_, (hlogged.trans hbeeped).trans hsteady⟩
    rw [htrace, hbeeptrace]
    rfl
  have hfailure := hsteady.failure
  rw [hreport, hbeep]
  show Reported event origin f e ((alert "Script Error" f.message beeped).bind fun _ => pure false)
  cases hrefused : beeped.presenter.failure e'.trace with
  | some g =>
      rw [hrefused] at halert
      dsimp only at halert
      rw [halert]
      exact .refused halerted (hfailure ▸ hrefused)
  | none =>
      rw [hrefused] at halert
      dsimp only at halert
      rcases halert with halert | halert
      · rw [halert]
        exact .shown halerted (hfailure ▸ hrefused)
      · rw [halert]
        exact .awaited halerted (hfailure ▸ hrefused)

/-! ### The run of a script and that of its dispatch -/

/-- The run of a script beside that of its dispatch: they are the same up to the end, and a
failure is reported. -/
inductive Dispatched (event : Text) (origin : Option Text) :
    Run Engine Bool → Run Engine Bool → Prop
  | handled {handled : Bool} {e : Engine} :
      Dispatched event origin (.finished (.ok handled) e) (.finished (.ok handled) e)
  | failed {f : Fault} {e : Engine} {r : Run Engine Bool} (h : Reported event origin f e r) :
      Dispatched event origin (.finished (.error f) e) r
  | asleep {seconds : Float} {e : Engine} {wake wake' : Engine → Run Engine Bool}
      (h : ∀ e', Dispatched event origin (wake e') (wake' e')) :
      Dispatched event origin (.asleep seconds e wake) (.asleep seconds e wake')

/-- What a dispatch does with the outcome of its script. -/
def settle (event : Text) (origin : Option Text) : Except Fault Bool → Action Engine Bool
  | .ok handled => return handled
  | .error f => do
    reportFailure event origin f
    return false

theorem dispatched_attempt (event : Text) (origin : Option Text) :
    ∀ r : Run Engine Bool, Dispatched event origin r (r.attempt.bind (settle event origin))
  | .finished (.ok _) _ => .handled
  | .finished (.error f) e => .failed (reportFailure_reported event origin f e)
  | .asleep _ _ wake => .asleep fun e' => dispatched_attempt event origin (wake e')

theorem dispatchWith_eq (dispatch : Dispatch) (event script : Text) (origin : Option Text)
    (e : Engine) :
    dispatchWith dispatch event script origin e =
      if Text.allBlank script then .finished (.ok false) e
      else (runScript dispatch script event origin e).attempt.bind (settle event origin) := by
  unfold dispatchWith
  by_cases hblank : Text.allBlank script = true
  · rw [if_pos hblank, if_pos hblank]
    rfl
  · rw [if_neg hblank, if_neg hblank]
    rfl

/-- A dispatch ends with an answer, or with the presenter's refusal of its alert. -/
def Concluded (outcome : Except Fault Bool) (e : Engine) : Prop :=
  (∃ handled, outcome = .ok handled) ∨
    ∃ f g : Fault, outcome = .error g ∧ e.trace.head? = some (.alert "Script Error" f.message) ∧
      e.presenter.failure e.trace = some g

theorem Dispatched.ends {event : Text} {origin : Option Text} {r r' : Run Engine Bool}
    (h : Dispatched event origin r r') : r'.Ends Concluded := by
  induction h with
  | handled => exact .inl ⟨_, rfl⟩
  | @failed f e r h =>
      cases h with
      | shown => exact .inl ⟨_, rfl⟩
      | awaited => exact fun _ => .inl ⟨_, rfl⟩
      | @refused e' g halerted hrefused =>
          refine .inr ⟨f, g, rfl, ?_, hrefused⟩
          rw [halerted.trace]
          rfl
  | asleep _ ih => exact ih

/-- **A dispatch, however deeply nested, passes on a script that runs to its end and reports one
that fails in just one alert; and it ends with an answer unless the presenter refuses that
alert.** -/
theorem dispatch_reports (depth : Nat) (event script : Text) (origin : Option Text) (e : Engine) :
    (Text.allBlank script ∧ dispatchAt (depth + 1) event script origin e = .finished (.ok false) e ∨
      ¬Text.allBlank script ∧
        Dispatched event origin (runScript (dispatchAt depth) script event origin e)
          (dispatchAt (depth + 1) event script origin e)) ∧
    (dispatchAt (depth + 1) event script origin e).Ends Concluded := by
  have heq : dispatchAt (depth + 1) event script origin e =
      dispatchWith (dispatchAt depth) event script origin e := rfl
  rw [heq, dispatchWith_eq]
  by_cases hblank : Text.allBlank script = true
  · rw [if_pos hblank]
    exact ⟨.inl ⟨hblank, rfl⟩, .inl ⟨false, rfl⟩⟩
  · rw [if_neg hblank]
    have hdispatched := dispatched_attempt event origin
      (runScript (dispatchAt depth) script event origin e)
    exact ⟨.inr ⟨hblank, hdispatched⟩, hdispatched.ends⟩

/-- An engine on one card whose presenter refuses every alert. -/
def unheard : Engine :=
  .new (.assemble (.usual "s") [] [.usual "a" "A"] 0 0)
    { hostMarker := some "-- @lua", repeatLimit := .null, ticksPerSecond := .null
      serializeEvents := .ok true, idleInterval := .ok .null, isServed := .ok false }
    { console := none, replies := []
      failure := fun events => match events.head? with
        | some (.alert ..) => some (.presenterFailed "alert")
        | _ => none }
    (.still .bare)

/-- When the presenter refuses the alert about a script, the dispatch of the script fails. -/
theorem dispatch_unheard :
    (dispatch "mouseUp" "on mouseUp\ngo 9\nend mouseUp" none unheard).complete.1 =
      .error (.presenterFailed "alert") := by
  decide +kernel

end Engine

end CardTalk
