/-
Scripts of the small language keep to the methods of scenes.

They call methods and look at entities, and do nothing else: no form of the language writes
into an entity or gets past what scripts are offered.
-/
import CardTalk.Host.Line.Runtime
import CardTalk.Proofs.Host.Scope

namespace CardTalk.Host

/-- Scripts that leave the entities alone do what they are offered. -/
theorem Scope.methods_le_offered : Scope.methods.Le .offered where
  writes _ h := h.elim

namespace Line

/-- A step does only what it may, with any memory. -/
structure Step.Within {α : Type} (scope : Scope) (s : Step α) : Prop where
  run : ∀ m, (s m).Within scope

namespace Step.Within

variable {α β : Type}

theorem pure (a : α) : (Pure.pure a : Step α).Within .methods := ⟨fun _ => trivial⟩

theorem bind {s : Step α} {next : α → Step β} (hs : s.Within .methods)
    (hnext : ∀ a, (next a).Within .methods) : (s >>= next).Within .methods := by
  refine ⟨fun m => Chunk.Within.bind (fun r => ?_) (hs.run m)⟩
  cases r.1 with
  | ok a => exact (hnext a).run r.2
  | error ending => trivial

theorem ofExcept (outcome : Except Ending α) : (liftM outcome : Step α).Within .methods :=
  ⟨fun _ => trivial⟩

theorem stop (ending : Ending) : (Step.stop ending : Step α).Within .methods := ⟨fun _ => trivial⟩

theorem held? (name : Text) : (Step.held? name).Within .methods := ⟨fun _ => trivial⟩

theorem hold (name : Text) (h : Held) : (Step.hold name h).Within .methods := ⟨fun _ => trivial⟩

theorem call (context : Nat) (method : Method) (args : List Value) :
    (Step.call context method args).Within .methods := ⟨fun _ => ⟨trivial, fun _ => trivial⟩⟩

theorem see (r : Reference) : (Step.see r).Within .methods := ⟨fun _ _ => trivial⟩

theorem forM {m : α → Step PUnit} (hm : ∀ a, (m a).Within .methods) :
    ∀ l : List α, (l.forM m).Within .methods
  | [] => pure _
  | a :: l => bind (hm a) fun _ => forM hm l

end Step.Within

open Step.Within

theorem fieldOf_within (line : Nat) (e : Expr) (name : Text) (h : Held) :
    (fieldOf line e name h).Within .methods := by
  unfold fieldOf
  split
  · exact .bind (.see _) fun _ => .pure _
  · exact .pure _
  · exact .pure _
  · exact .stop _

theorem methodOf_within (line : Nat) (holder name : Text) :
    (methodOf line holder name).Within .methods := by
  refine .bind (.held? _) fun h => ?_
  split
  · split
    · exact .pure _
    · exact .stop _
  · exact .bind (fieldOf_within ..) fun _ => .stop _

mutual

theorem eval_within (line : Nat) : ∀ e, (eval line e).Within .methods
  | .constant _ => .pure _
  | .global _ => .bind (.held? _) fun _ => .pure _
  | .call _ _ args =>
    .bind (methodOf_within ..) fun _ => .bind (evalAll_within line args) fun _ => .call ..
  | .field e _ => .bind (eval_within line e) fun _ => fieldOf_within ..
  | .item e index =>
    .bind (eval_within line e) fun _ => .bind (eval_within line index) fun _ => .ofExcept _
  | .length e => .bind (eval_within line e) fun _ => .ofExcept _
  | .join left right =>
    .bind (eval_within line left) fun _ => .bind (eval_within line right) fun _ => .ofExcept _

theorem evalAll_within (line : Nat) : ∀ args, (evalAll line args).Within .methods
  | [] => .pure _
  | e :: rest =>
    .bind (eval_within line e) fun _ => .bind (evalAll_within line rest) fun _ => .pure _

end

theorem run_within (line : Nat) (s : Statement) : (run line s).Within .methods := by
  cases s with
  | assign name e => exact .bind (eval_within line e) fun _ => .hold ..
  | call holder name args =>
      refine .bind (methodOf_within ..) fun _ => .bind (evalAll_within line args) fun _ => ?_
      exact .bind (.call ..) fun _ => .pure _
  | error words =>
      refine .bind (eval_within line words) fun _ => .bind (.held? _) fun replacement => ?_
      cases replacement with
      | none => exact .stop _
      | some h => exact .stop _

theorem runScript_within (script : Text) : (runScript script).Within .methods := by
  unfold runScript
  split
  · exact .stop _
  · exact .forM (fun _ => run_within ..) _

/-- **Every script of the language keeps to the methods of scenes.** -/
theorem runtime_keeps : runtime.Keeps .methods := by
  intro _ memory script
  refine Chunk.Within.bind (fun r => ?_) ((runScript_within script).run memory)
  obtain ⟨outcome, memory⟩ := r
  cases outcome with
  | ok _ => trivial
  | error ending => trivial

end Line

end CardTalk.Host

namespace CardTalk

variable (surroundings : Surroundings) (isSlow : List Event → Bool)

theorem World.still_keeps : (World.still surroundings isSlow).host.Keeps .methods :=
  Host.Line.runtime_keeps

theorem World.still_keeps_offered : (World.still surroundings isSlow).host.Keeps .offered :=
  Host.Line.runtime_keeps.mono Host.Scope.methods_le_offered

end CardTalk
