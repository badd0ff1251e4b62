/-
Dispatch, and with it every operation of the engine but the idle tick, follows every fair
conduct, and the idle tick every lawful one.

How deeply handlers may be nested is what the induction is on: the operations that run
handlers have been gone through with the dispatch as a parameter, so one more level follows
from the level inside it.
-/
import CardTalk.Proofs.Conduct.Handler
import CardTalk.Proofs.Conduct.Host
import CardTalk.Engine.Lifecycle

namespace CardTalk.Engine

namespace Fair

variable {c : Conduct Engine} (hc : Fair c)

include hc

section

variable {dispatch : Dispatch}
  (hd : ∀ event script origin, (dispatch event script origin).Follows c)

include hd

theorem performDeferred (d : Host.Deferred) : (performDeferred dispatch d).Follows c := by
  cases d with
  | go destination => exact hc.goToWith hd destination
  | addCard name =>
      exact .get_bind fun he => .ofExcept_bind he fun _ hs => hc.change he (.add hs)
  | deleteCard =>
      simp only [Engine.performDeferred, Engine.deleteCard, bind_assoc]
      refine .get_bind fun {e} he => .ofExcept_bind he fun outcome hdelete => ?_
      cases outcome with
      | none => exact (Action.Follows.bind (hc.warn _) fun _ => .pure _).run he
      | some s => exact hc.change he (.delete hdelete)
  | alert message => exact hc.alert ..
  | prompt message => exact .bind (hc.prompt message) fun _ => hc.setIt _
  | fetch url => exact hc.fetchIntoIt ..

theorem workOff {scope : Host.Scope} {opened : Nat → Prop} (hhost : Hosts c scope opened)
    {context : Nat} (hcontext : opened context) :
    ∀ most position, (workOff dispatch context most position).Follows c := by
  intro most
  induction most with
  | zero => exact fun _ => .fail _
  | succ most ih =>
      refine fun position => .bind .get fun e => ?_
      cases (Host.noted context e)[position]? with
      | none => exact Host.forget_follows hhost hcontext
      | some d => exact .bind (hc.performDeferred hd d) fun _ => ih (position + 1)

theorem runHost (script event : Text) (origin : Option Text) :
    (runHost dispatch script event origin).Follows c := by
  obtain ⟨scope, opened, hhost⟩ := hc.hosted
  refine Host.openContext_bind hhost fun context hcontext => ?_
  refine .bind (Host.runIn_follows hc.toQuiet hhost hcontext ..) fun _ => ?_
  exact .bind (.bind .get fun _ => hc.workOff hd hhost hcontext ..) fun _ => hc.notifyChanged

theorem callHostWith (calls : List (Text × List Value)) :
    (callHostWith dispatch calls).Follows c := by
  obtain ⟨scope, opened, hhost⟩ := hc.hosted
  refine Host.openContext_bind hhost fun context hcontext => ?_
  have hcall := fun name args =>
    Host.callByName_follows hc.toQuiet hhost (hhost.calls hcontext) name args
  refine .bind (.mapM (fun _ => hcall ..) _) fun _ => ?_
  exact .bind (.bind .get fun _ => hc.workOff hd hhost hcontext ..) fun _ => .pure _

theorem runHandler (statements : List Text) (event : Text) (origin : Option Text) :
    (runHandler dispatch statements event origin).Follows c := by
  unfold Engine.runHandler
  split
  · exact .pure _
  · exact .bind (.within _ (Handler.runStatements_follows hc hd _)) fun _ => .pure _

theorem runScript (script event : Text) (origin : Option Text) :
    (runScript dispatch script event origin).Follows c := by
  refine .bind .get fun _ => .ite ?_ (hc.runHandler hd ..)
  exact .bind (hc.runHost hd ..) fun _ => .pure _

omit hd in
theorem reportFailure (event : Text) (origin : Option Text) (f : Fault) :
    (reportFailure event origin f).Follows c :=
  .bind (hc.log ..) fun _ => .bind hc.beep fun _ => hc.alert ..

theorem dispatchWith (event script : Text) (origin : Option Text) :
    (dispatchWith dispatch event script origin).Follows c := by
  refine .ite (.pure _) (.bind (.attempt (hc.runScript hd ..)) fun outcome => ?_)
  split
  · exact .pure _
  · exact .bind (hc.reportFailure ..) fun _ => .pure _

end

theorem dispatchAt :
    ∀ depth event script origin, (dispatchAt depth event script origin).Follows c := by
  intro depth
  induction depth with
  | zero => exact fun _ _ _ => .fail _
  | succ depth ih => exact fun event script origin => hc.dispatchWith ih event script origin

/-! ### Operations that run handlers -/

theorem dispatch (event script : Text) (origin : Option Text) :
    (dispatch event script origin).Follows c := hc.dispatchAt nestingLimit event script origin

theorem offer (event : Text) (origin : Option Text) : (offer event origin).Follows c :=
  offerWith hc.dispatch event origin

theorem goTo (destination : Value) : (goTo destination).Follows c :=
  hc.goToWith hc.dispatch destination

theorem find (term : Text) (field : Option Text) : (find term field).Follows c :=
  hc.findWith hc.dispatch term field

theorem callHost (calls : List (Text × List Value)) : (callHost calls).Follows c :=
  hc.callHostWith hc.dispatch calls

omit hc in
theorem evaluate (source : Text) : (evaluate source).Follows c :=
  .within _ (Handler.evaluate_follows source)

theorem execute (source : Text) : (execute source).Follows c :=
  .within _ (Handler.runStatements_follows hc hc.dispatch _)

theorem message (source : Text) : (message source).Follows c := by
  refine .ite (.pure _) (.ite (evaluate _) ?_)
  exact .bind (hc.execute _) fun _ => .bind .get fun _ => .pure _

theorem idlePass : idlePass.Follows c := by
  have hobject : ∀ r id, (idleObject r id).Follows c := fun r id =>
    .bind .get fun _ => .ite (.bind (hc.dispatch ..) fun _ => .pure _) (.pure _)
  refine .bind .get fun _ => .bind (.ofExcept _) fun _ => .bind (.forM (fun _ => hobject ..) _) ?_
  exact fun _ => .bind (hc.offer ..) fun _ => .pure _

theorem start : start.Follows c := by
  refine .bind .get fun _ => .bind (hc.dispatch ..) fun _ => .bind (hc.dispatch ..) fun _ => ?_
  refine .bind (hc.offer ..) fun _ => .bind hc.render fun _ => .bind .get fun _ => ?_
  refine .bind (.ofExcept _) fun _ => ?_
  split
  · exact .pure _
  · exact .fail _

end Fair

theorem Lawful.idleTick {c : Conduct Engine} (hc : Lawful c) : idleTick.Follows c := by
  have hset : ∀ b, (setIdling b).Follows c := fun b => .modify fun he => hc.does he (.idling b)
  refine .bind .get fun _ => .ite (.pure _) (.bind (hset _) fun _ => ?_)
  refine .bind (.attempt hc.fair.idlePass) fun outcome => ?_
  split
  · exact .bind (hset _) fun _ => .pure _
  · exact .bind (hc.fair.log ..) fun _ => .bind (hset _) fun _ => .pure _

end CardTalk.Engine
