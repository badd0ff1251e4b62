/-
Runs of host-mode scripts follow every conduct that admits what they may do.

While a script runs, its methods only note what they would do to the scene, so they change
nothing but the registers, the log and the notes.  What the script does besides is up to the
scope that its runtime keeps to.
-/
import CardTalk.Proofs.Conduct.Engine
import CardTalk.Host.Context

namespace CardTalk.Host

open Engine

variable {c : Conduct Engine} {scope : Scope} {opened : Nat → Prop} (hc : Engine.Quiet c)
  (hhost : Hosts c scope opened) {context : Nat}

section

variable (hcontext : scope.calls context)

include hhost hcontext

theorem note_follows (d : Deferred) : (note context d).Follows c :=
  .bind (.modify fun he => hhost.note he hcontext d) fun _ => .pure _

include hc

theorem call_follows (method : Method) (args : List Value) :
    (method.call context args).Follows c := by
  have hnote := fun d => note_follows hhost hcontext d
  refine .bind (.ofExcept _) fun _ => .bind .get fun s => ?_
  cases method with
  | currentCard => exact .bind (.ofExcept _) fun _ => .pure _
  | currentStack => exact .pure _
  | currentIndex => exact .pure _
  | cards => exact .pure _
  | findObject =>
      refine .bind (.ofExcept _) fun found => ?_
      split
      · exact .pure _
      · exact .pure _
  | getIt => exact .pure _
  | setIt => exact .bind (.ofExcept _) fun _ => .bind (hc.setIt _) fun _ => .pure _
  | log => exact .bind (.ofExcept _) fun _ => .bind (hc.log ..) fun _ => .pure _
  | go => exact .bind (.ofExcept _) fun _ => hnote _
  | addCard => exact hnote _
  | deleteCard => exact hnote _
  | alert => exact .bind (.ofExcept _) fun _ => hnote _
  | fetch => exact hnote _
  | prompt => exact .bind (.ofExcept _) fun _ => hnote _

theorem callByName_follows (name : Text) (args : List Value) :
    (callByName context name args).Follows c :=
  .bind (.ofExcept _) fun _ => call_follows hc hhost hcontext ..

end

include hhost

theorem forget_follows (hcontext : opened context) : (forget context).Follows c :=
  .modify fun he => hhost.forget he hcontext

/-- What is done in a context that has just been opened may rely on that. -/
theorem openContext_bind {β : Type} {next : Nat → Action Engine β}
    (hnext : ∀ context, opened context → (next context).Follows c) :
    (openContext >>= next).Follows c where
  run {e} he := by
    obtain ⟨hcontext, hopens⟩ := hhost.opens he
    exact .after hopens ((hnext _ hcontext).run (c.stable hopens.1 he))

include hc

/-- A script that keeps to the scope does what the conduct admits, step by step. -/
theorem Chunk.run_follows {α : Type} :
    ∀ {k : Chunk α}, k.Within scope → k.run.Follows c
  | ends _, _ => .pure _
  | calls .., h =>
    .bind (.attempt (call_follows hc hhost h.1 ..)) fun outcome => run_follows (h.2 outcome)
  | sees .., h => .bind .get fun _ => run_follows (h _)
  | writes .., h =>
    .bind (.modify fun he => hhost.writes he h.1 _) fun _ => run_follows h.2
  | reaches .., h =>
    .get_bind fun he =>
      .set_bind he (hhost.reaches he h.1 _ _) (run_follows (h.2 _))

theorem runIn_follows (hcontext : opened context) (script event : Text)
    (origin : Option Text) : (runIn context script event origin).Follows c := by
  refine .get_bind fun {e} he => ?_
  have hrun := Chunk.run_follows hc hhost (hhost.keeps he hcontext script event origin)
  refine (hrun.run he).bind fun r t ht => ?_
  have hrest : Action.Follows c (do
      modify fun e : Engine => { e with hostMemory := r.2 }
      (r.1.outcome : Except Fault _)) :=
    .bind (.modify fun he => hhost.memory he r.2) fun _ => .ofExcept _
  exact hrest.run (c.stable ht he)

end CardTalk.Host
