/-
What the actions do that host-mode scripts note for later.

`Directly` says it for each of them: what becomes of the scene, the registers and the log, and how
the calls of the presenter end that belong to it.  An action that has been noted does just this when
its turn comes (`performDeferred_reaches`).
-/
import CardTalk.Engine.Dispatch
import CardTalk.Proofs.Run

namespace CardTalk.Engine

open Host (Deferred)

section

variable (dispatch : Dispatch) (others : Engine → Engine → Prop)

/-- What an action that has been noted does on the engine, and how it can end. -/
inductive Directly : Deferred → Engine → Except Fault Unit → Engine → Prop
  | go {destination : Value} {e t : Engine} {outcome : Except Fault Unit}
      (h : (goToWith dispatch destination e).Reaches others outcome t) :
      Directly (.go destination) e outcome t
  | added {name : Option Text} {e t : Engine} {s : Scene} {outcome : Except Fault Unit}
      (hadd : e.scene.addCard name = .ok s)
      (h : (notifyChanged { e with scene := s }).Reaches others outcome t) :
      Directly (.addCard name) e outcome t
  | unadded {name : Option Text} {e : Engine} {f : Fault}
      (hadd : e.scene.addCard name = .error f) : Directly (.addCard name) e (.error f) e
  | deleted {e t : Engine} {s : Scene} {outcome : Except Fault Unit}
      (hdelete : e.scene.deleteCard = .ok (some s))
      (h : (notifyChanged { e with scene := s }).Reaches others outcome t) :
      Directly .deleteCard e outcome t
  /-- The only card stays. -/
  | undeleted {e : Engine} (hdelete : e.scene.deleteCard = .ok none) :
      Directly .deleteCard e (.ok ())
        { e with trace := .log .warning "Cannot delete the only card" :: e.trace }
  | notThere {e : Engine} {f : Fault} (hdelete : e.scene.deleteCard = .error f) :
      Directly .deleteCard e (.error f) e
  | alert {message : Text} {e t : Engine} {outcome : Except Fault Unit}
      (h : (Engine.alert [] message e).Reaches others outcome t) :
      Directly (.alert message) e outcome t
  /-- The reply becomes `it`, which is blank if the question is dismissed. -/
  | prompted {message : Text} {reply : Option Text} {e t : Engine}
      (h : (Engine.prompt message e).Reaches others (.ok reply) t) :
      Directly (.prompt message) e (.ok ())
        { t with registers := { t.registers with it := reply.getD [] } }
  | unprompted {message : Text} {e t : Engine} {f : Fault}
      (h : (Engine.prompt message e).Reaches others (.error f) t) :
      Directly (.prompt message) e (.error f) t
  | fetched {url body : Text} {e t : Engine}
      (h : (Engine.fetch url e).Reaches others (.ok body) t) :
      Directly (.fetch url) e (.ok ()) { t with registers := { t.registers with it := body } }
  /-- A fetch that fails is no failure of the action: the log and `it` say so. -/
  | unfetched {url : Text} {e t : Engine} {f : Fault}
      (h : (Engine.fetch url e).Reaches others (.error f) t) :
      Directly (.fetch url) e (.ok ())
        { t with
          registers := { t.registers with it := ("Error: " : Text) ++ f.message }
          trace := .log .warning (("fetch " : Text) ++ url ++ " failed: " ++ f.message) :: t.trace }

end

variable {dispatch : Dispatch} {others : Engine → Engine → Prop} {e t : Engine}
  {outcome : Except Fault Unit}

/-- A look at the engine shows it as it is. -/
theorem get_bind {α : Type} (next : Engine → Action Engine α) (e : Engine) :
    (get >>= next) e = next e e := rfl

theorem addCard_reaches (name : Option Text) :
    (performDeferred dispatch (.addCard name) e).Reaches others outcome t ↔
      Directly dispatch others (.addCard name) e outcome t := by
  show ((liftM (e.scene.addCard name) >>= _ : Action Engine Unit) e).Reaches others outcome t ↔ _
  cases hadd : e.scene.addCard name with
  | error f =>
      refine Run.reaches_finished.trans ⟨?_, fun h => ?_⟩
      · rintro ⟨rfl, rfl⟩
        exact .unadded hadd
      · cases h with
        | added hadd' => cases hadd.symm.trans hadd'
        | unadded hadd' =>
            cases hadd.symm.trans hadd'
            exact ⟨rfl, rfl⟩
  | ok s =>
      refine ⟨.added hadd, fun h => ?_⟩
      cases h with
      | added hadd' h =>
          cases hadd.symm.trans hadd'
          exact h
      | unadded hadd' => cases hadd.symm.trans hadd'

theorem deleteCard_reaches :
    (performDeferred dispatch .deleteCard e).Reaches others outcome t ↔
      Directly dispatch others .deleteCard e outcome t := by
  show ((deleteCard e).bind (fun deleted => if deleted then notifyChanged else pure ())).Reaches
    others outcome t ↔ _
  rw [deleteCard, get_bind]
  rcases hdelete : e.scene.deleteCard with f | _ | s
  · refine Run.reaches_finished.trans ⟨?_, fun h => ?_⟩
    · rintro ⟨rfl, rfl⟩
      exact .notThere hdelete
    · cases h with
      | deleted hdelete' | undeleted hdelete' => cases hdelete.symm.trans hdelete'
      | notThere hdelete' =>
          cases hdelete.symm.trans hdelete'
          exact ⟨rfl, rfl⟩
  · refine Run.reaches_finished.trans ⟨?_, fun h => ?_⟩
    · rintro ⟨rfl, rfl⟩
      exact .undeleted hdelete
    · cases h with
      | undeleted => exact ⟨rfl, rfl⟩
      | deleted hdelete' | notThere hdelete' => cases hdelete.symm.trans hdelete'
  · refine ⟨.deleted hdelete, fun h => ?_⟩
    cases h with
    | deleted hdelete' h =>
        cases hdelete.symm.trans hdelete'
        exact h
    | undeleted hdelete' | notThere hdelete' => cases hdelete.symm.trans hdelete'

theorem prompt_reaches (message : Text) :
    (performDeferred dispatch (.prompt message) e).Reaches others outcome t ↔
      Directly dispatch others (.prompt message) e outcome t := by
  refine (Run.reaches_bind (Engine.prompt message e)).trans ⟨?_, fun h => ?_⟩
  · rintro (⟨reply, s, hprompt, hset⟩ | ⟨f, hprompt, rfl⟩)
    · obtain ⟨rfl, rfl⟩ := Run.reaches_finished.mp hset
      exact .prompted hprompt
    · exact .unprompted hprompt
  · cases h with
    | prompted h => exact .inl ⟨_, _, h, .finished⟩
    | unprompted h => exact .inr ⟨_, h, rfl⟩

theorem fetch_reaches (url : Text) :
    (performDeferred dispatch (.fetch url) e).Reaches others outcome t ↔
      Directly dispatch others (.fetch url) e outcome t := by
  refine (Run.reaches_bind (Engine.fetch url e).attempt).trans ⟨?_, fun h => ?_⟩
  · rintro (⟨fetched, s, hattempt, hset⟩ | ⟨f, hattempt, -⟩)
    · obtain ⟨outcome, hfetch, heq⟩ := (Run.reaches_attempt _).mp hattempt
      obtain rfl := Except.ok.inj heq
      cases fetched with
      | ok body =>
          obtain ⟨rfl, rfl⟩ := Run.reaches_finished.mp hset
          exact .fetched hfetch
      | error f =>
          obtain ⟨rfl, rfl⟩ := Run.reaches_finished.mp hset
          exact .unfetched hfetch
    · obtain ⟨_, -, heq⟩ := (Run.reaches_attempt _).mp hattempt
      cases heq
  · cases h with
    | fetched h => exact .inl ⟨_, _, (Run.reaches_attempt _).mpr ⟨_, h, rfl⟩, .finished⟩
    | unfetched h => exact .inl ⟨_, _, (Run.reaches_attempt _).mpr ⟨_, h, rfl⟩, .finished⟩

/-- **Every action is done directly on the engine.** -/
theorem performDeferred_reaches (d : Deferred) :
    (performDeferred dispatch d e).Reaches others outcome t ↔
      Directly dispatch others d e outcome t := by
  cases d with
  | go destination =>
      refine ⟨.go, fun h => ?_⟩
      cases h with
      | go h => exact h
  | addCard name => exact addCard_reaches name
  | deleteCard => exact deleteCard_reaches
  | alert message =>
      refine ⟨.alert, fun h => ?_⟩
      cases h with
      | alert h => exact h
  | prompt message => exact prompt_reaches message
  | fetch url => exact fetch_reaches url

end CardTalk.Engine
