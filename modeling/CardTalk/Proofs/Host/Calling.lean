/-
What the methods of a scene do at once.

While methods are called, nothing happens to the engine but to `it`, to the log and to what is
noted in the context of the scene, and what happens depends on nothing but the scene and `it`
(`Quiet`).  So each call is answered from the engine as it was before all calls (`Answered`), and
a host-mode script that does nothing but call the methods of its own scene is quiet as well
(`Chunk.run_quiet`).
-/
import CardTalk.Host.Context
import CardTalk.Proofs.Conduct.Basic
import CardTalk.Proofs.Host.Scope

namespace CardTalk

/-! ### Quiet actions -/

/-- A log entry that a script has written. -/
def Event.IsNote (event : Event) : Prop := ∃ text, event = .log .info text

/-- The engine with another `it`, more events and more that is noted in a context. -/
def Engine.quietly (e : Engine) (context : Nat) (it : Text) (entries : List Event)
    (more : List Host.Deferred) : Engine :=
  { e with
    registers := { e.registers with it }
    hostNotes := e.hostNotes.modify context (· ++ more)
    trace := entries ++ e.trace }

namespace Engine

variable (e : Engine) (context : Nat)

theorem quietly_self : e.quietly context e.registers.it [] [] = e := by
  have hnotes : e.hostNotes.modify context (· ++ []) = e.hostNotes := by
    simp only [List.append_nil]
    exact List.modify_id ..
  rw [quietly, hnotes]
  rfl

theorem quietly_quietly (it it' : Text) (entries entries' : List Event)
    (more more' : List Host.Deferred) :
    (e.quietly context it entries more).quietly context it' entries' more' =
      e.quietly context it' (entries' ++ entries) (more ++ more') := by
  simp only [quietly, List.modify_modify_eq, List.append_assoc, Function.comp_def]

/-- What is noted then in the context. -/
theorem noted_quietly {context : Nat} (hcontext : context < e.hostNotes.length) (it : Text)
    (entries : List Event) (more : List Host.Deferred) :
    Host.noted context (e.quietly context it entries more) = Host.noted context e ++ more := by
  rw [Host.noted, Host.noted, quietly, List.getElem?_modify_eq, List.getElem?_eq_getElem hcontext]
  rfl

end Engine

namespace Host

open Engine

variable {sets sets' : Prop} {α β : Type}

/-- An action in a context that ends at once, reads nothing of the engine but the scene and `it`,
and does nothing but write to the log, note actions in its context and change `it`, if it
`sets`. -/
structure Quiet (sets : Prop) (m : (context : Nat) → Action Engine α) : Prop where
  run : ∀ (start : Engine) (it : Text), ∃ outcome it' entries more,
    (¬sets → it' = it) ∧ (∀ entry ∈ entries, Event.IsNote entry) ∧
    ∀ (e : Engine) (context : Nat), e.scene = start.scene → e.registers.it = it →
      m context e = .finished outcome (e.quietly context it' entries more)

namespace Quiet

/-- An outcome at once, and nothing else. -/
theorem still {m : Nat → Action Engine α} {outcome : Except Fault α}
    (h : ∀ context e, m context e = .finished outcome e) : Quiet sets m where
  run start it := by
    refine ⟨outcome, it, [], [], fun _ => rfl, nofun, ?_⟩
    rintro e context - rfl
    rw [h, quietly_self]

theorem pure (a : α) : Quiet sets fun _ => (Pure.pure a : Action Engine α) := still fun _ _ => rfl

theorem ofExcept (outcome : Except Fault α) :
    Quiet sets fun _ => (liftM outcome : Action Engine α) := still fun _ _ => rfl

theorem bind {m : Nat → Action Engine α} {next : α → Nat → Action Engine β} (hm : Quiet sets m)
    (hnext : ∀ a, Quiet sets (next a)) :
    Quiet sets fun context => m context >>= (next · context) where
  run start it := by
    obtain ⟨outcome, it', entries, more, hit, hentries, hrun⟩ := hm.run start it
    have hbind (context : Nat) (e : Engine) :
        (m context >>= (next · context)) e = (m context e).bind (next · context) := rfl
    cases outcome with
    | error f =>
        refine ⟨.error f, it', entries, more, hit, hentries, fun e context hscene heit => ?_⟩
        rw [hbind, hrun e context hscene heit]
        rfl
    | ok a =>
        obtain ⟨outcome, it'', entries', more', hit', hentries', hrun'⟩ := (hnext a).run start it'
        refine ⟨outcome, it'', entries' ++ entries, more ++ more', fun h => (hit' h).trans (hit h),
          List.forall_mem_append.mpr ⟨hentries', hentries⟩, fun e context hscene heit => ?_⟩
        rw [hbind, hrun e context hscene heit, Run.bind,
          hrun' (e.quietly context it' entries more) context hscene rfl, quietly_quietly]

/-- What is done after a look at the engine depends on what may be read of it. -/
theorem get_bind {next : Engine → Nat → Action Engine α}
    (hsame : ∀ e e' : Engine, e.scene = e'.scene → e.registers.it = e'.registers.it →
      next e = next e')
    (h : ∀ e, Quiet sets (next e)) : Quiet sets fun context => get >>= (next · context) where
  run start it := by
    let seen : Engine := { start with registers := { start.registers with it } }
    obtain ⟨outcome, it', entries, more, hit, hentries, hrun⟩ := (h seen).run start it
    refine ⟨outcome, it', entries, more, hit, hentries, fun e context hscene heit => ?_⟩
    have hlook : (get >>= (next · context)) e = next e context e := rfl
    rw [hlook, hsame e seen hscene heit]
    exact hrun e context hscene heit

theorem mono {m : Nat → Action Engine α} (h : Quiet sets m) (hsets : sets → sets') :
    Quiet sets' m where
  run start it := by
    obtain ⟨outcome, it', entries, more, hit, hentries, hrun⟩ := h.run start it
    exact ⟨outcome, it', entries, more, fun hno => hit (mt hsets hno), hentries, hrun⟩

theorem note (d : Deferred) : Quiet sets fun context => Host.note context d where
  run start it := by
    refine ⟨.ok nothing, it, [], [d], fun _ => rfl, nofun, ?_⟩
    rintro e context - rfl
    rfl

theorem setIt (hsets : sets) (value : Text) : Quiet sets fun _ => Engine.setIt value where
  run start it := by
    refine ⟨.ok (), value, [], [], fun h => absurd hsets h, nofun, fun e context _ _ => ?_⟩
    have hrun : Engine.setIt value e =
        .finished (.ok ()) { e with registers := { e.registers with it := value } } := rfl
    rw [hrun, ← quietly_self { e with registers := { e.registers with it := value } } context]
    rfl

theorem log (text : Text) : Quiet sets fun _ => Engine.log .info text where
  run start it := by
    refine ⟨.ok (), it, [.log .info text], [], fun _ => rfl,
      List.forall_mem_singleton.mpr ⟨text, rfl⟩, ?_⟩
    rintro e context - rfl
    have hrun : Engine.log .info text e =
        .finished (.ok ()) { e with trace := .log .info text :: e.trace } := rfl
    rw [hrun, ← quietly_self { e with trace := .log .info text :: e.trace } context]
    rfl

end Quiet

/-! ### Methods -/

/-- Every method is quiet, and only one of them sets `it`. -/
theorem call_quiet (method : Method) (args : List Value) :
    Quiet (method = .setIt) fun context => method.call context args := by
  refine .bind (.ofExcept _) fun _ => .get_bind (fun e e' hscene hit => ?_) fun e => ?_
  · cases method <;> simp only [hscene, hit]
  · cases method with
    | currentCard => exact .bind (.ofExcept _) fun _ => .pure _
    | currentStack => exact .pure _
    | currentIndex => exact .pure _
    | cards => exact .pure _
    | findObject =>
        refine .bind (.ofExcept _) fun found => ?_
        cases found with
        | some place => exact .pure _
        | none => exact .pure _
    | getIt => exact .pure _
    | setIt => exact .bind (.ofExcept _) fun _ => .bind (.setIt rfl _) fun _ => .pure _
    | log => exact .bind (.ofExcept _) fun _ => .bind (.log _) fun _ => .pure _
    | go => exact .bind (.ofExcept _) fun _ => .note _
    | addCard => exact .note _
    | deleteCard => exact .note _
    | alert => exact .bind (.ofExcept _) fun _ => .note _
    | fetch => exact .note _
    | prompt => exact .bind (.ofExcept _) fun _ => .note _

theorem callByName_quiet (name : Text) (args : List Value) :
    Quiet (name = "set_it") fun context => callByName context name args := by
  cases hmethod : Method.ofName? name with
  | none =>
      have hnamed : methodNamed name = .error (.unknownMethod name) := by rw [methodNamed, hmethod]
      have hcall (context : Nat) :
          callByName context name args = Action.fail (.unknownMethod name) := by
        rw [callByName, hnamed]
        rfl
      exact .still fun context e => congrFun (hcall context) e
  | some method =>
      have hnamed : methodNamed name = .ok method := by rw [methodNamed, hmethod]
      have hcall (context : Nat) : callByName context name args = method.call context args := by
        rw [callByName, hnamed]
        rfl
      simp only [hcall]
      refine (call_quiet method args).mono ?_
      rintro rfl
      have hname : (Method.name .setIt == name) = true :=
        List.find?_some (p := fun m : Method => m.name == name) hmethod
      exact (eq_of_beq hname).symm

/-! ### Calls -/

/-- A call of a method by its name. -/
abbrev Call : Type := Text × List Value

/-- What a call does when the engine has not changed but for `it`, and nothing has been noted. -/
def answer (e : Engine) (it : Text) (call : Call) : Run Engine Result :=
  callByName 0 call.1 call.2
    { e with registers := { e.registers with it }, hostNotes := [[]] }

/-- Calls one after the other, each answered from the engine as it was before all of them, but for
`it`: what they give, or the fault of the first one that fails, what `it` is then, and what has been
noted. -/
inductive Answered (e : Engine) :
    Text → List Call → Except Fault (List Result) → Text → List Deferred → Prop
  | none {it : Text} : Answered e it [] (.ok []) it []
  | more {it it' : Text} {call : Call} {calls : List Call} {e' : Engine} {r : Result}
      {outcome : Except Fault (List Result)} {later : List Deferred}
      (hanswer : answer e it call = .finished (.ok r) e')
      (hit : call.1 ≠ "set_it" → e'.registers.it = it)
      (h : Answered e e'.registers.it calls outcome it' later) :
      Answered e it (call :: calls) (outcome.map (r :: ·)) it' (noted 0 e' ++ later)
  | failed {it : Text} {call : Call} {calls : List Call} {e' : Engine} {f : Fault}
      (hanswer : answer e it call = .finished (.error f) e')
      (hit : call.1 ≠ "set_it" → e'.registers.it = it) :
      Answered e it (call :: calls) (.error f) e'.registers.it (noted 0 e')

/-- A call is answered as it would be before all the others, but for `it`, and adds to the log and
to what has been noted. -/
theorem callByName_answered (start : Engine) (call : Call) (it : Text) :
    ∃ outcome e' entries, (call.1 ≠ "set_it" → e'.registers.it = it) ∧
      (∀ entry ∈ entries, Event.IsNote entry) ∧ answer start it call = .finished outcome e' ∧
      ∀ (e : Engine) (context : Nat), e.scene = start.scene → e.registers.it = it →
        callByName context call.1 call.2 e =
          .finished outcome (e.quietly context e'.registers.it entries (noted 0 e')) := by
  obtain ⟨outcome, it', entries, more, hit, hentries, hrun⟩ :=
    (callByName_quiet call.1 call.2).run start it
  let before : Engine :=
    { start with registers := { start.registers with it }, hostNotes := [[]] }
  refine ⟨outcome, before.quietly 0 it' entries more, entries, hit, hentries,
    hrun before 0 rfl rfl, fun e context hscene heit => ?_⟩
  rw [hrun e context hscene heit, noted_quietly before (Nat.zero_lt_one)]
  rfl

/-- Calls are answered one after the other, and nothing else happens but entries in the log. -/
theorem mapM_answered (start : Engine) (context : Nat) (calls : List Call) (it : Text) :
    ∃ outcome it' entries more, Answered start it calls outcome it' more ∧
      (∀ entry ∈ entries, Event.IsNote entry) ∧
      ∀ e : Engine, e.scene = start.scene → e.registers.it = it →
        calls.mapM (fun call => callByName context call.1 call.2) e =
          .finished outcome (e.quietly context it' entries more) := by
  induction calls generalizing it with
  | nil =>
      refine ⟨.ok [], it, [], [], .none, nofun, ?_⟩
      rintro e - rfl
      rw [quietly_self]
      rfl
  | cons call calls ih =>
      obtain ⟨outcome, e', entries, hit, hentries, hanswer, hcall⟩ :=
        callByName_answered start call it
      have hcons (e : Engine) :
          (call :: calls).mapM (fun call => callByName context call.1 call.2) e =
            (callByName context call.1 call.2 e).bind fun r =>
              (calls.mapM fun call => callByName context call.1 call.2) >>= fun rs =>
                Pure.pure (r :: rs) := by
        rw [List.mapM_cons]
        rfl
      cases outcome with
      | error f =>
          refine ⟨.error f, e'.registers.it, entries, noted 0 e', .failed hanswer hit, hentries,
            fun e hscene heit => ?_⟩
          rw [hcons, hcall e context hscene heit]
          rfl
      | ok r =>
          obtain ⟨outcome, it', entries', later, hanswered, hentries', hrest⟩ :=
            ih e'.registers.it
          refine ⟨outcome.map (r :: ·), it', entries' ++ entries, noted 0 e' ++ later,
            .more hanswer hit hanswered, List.forall_mem_append.mpr ⟨hentries', hentries⟩,
            fun e hscene heit => ?_⟩
          have hbind (e : Engine) :
              ((calls.mapM fun call => callByName context call.1 call.2) >>= fun rs =>
                Pure.pure (r :: rs) : Action Engine (List Result)) e =
              (calls.mapM (fun call => callByName context call.1 call.2) e).bind fun rs =>
                Pure.pure (r :: rs) := rfl
          rw [hcons, hcall e context hscene heit, Run.bind, hbind,
            hrest (e.quietly context e'.registers.it entries (noted 0 e')) hscene rfl,
            quietly_quietly]
          cases outcome <;> rfl

/-! ### Scripts -/

/-- The methods of the scene of a context only. -/
def Scope.ownMethods (context : Nat) : Scope := ⟨(· = context), fun _ => False, False⟩

theorem Scope.ownMethods_le_own (context : Nat) : (Scope.ownMethods context).Le (.own context) where
  calls _ h := h
  writes _ h := h.elim

/-- A script that only calls the methods of its own scene ends at once with what it has noted, and
sees the scene as it was all the time it runs. -/
theorem Chunk.run_quiet {context : Nat} {α : Type} (e : Engine) :
    ∀ {k : Chunk α}, k.Within (.ownMethods context) →
      ∃ a it entries more, (∀ entry ∈ entries, Event.IsNote entry) ∧
        k.run e = .finished (.ok a) (e.quietly context it entries more) := by
  intro k hk
  induction k generalizing e with
  | ends a =>
      refine ⟨a, e.registers.it, [], [], nofun, ?_⟩
      rw [quietly_self]
      rfl
  | calls k method args next ih =>
      obtain ⟨rfl, hnext⟩ := hk
      obtain ⟨outcome, it, entries, more, -, hentries, hcall⟩ :=
        (call_quiet method args).run e e.registers.it
      obtain ⟨a, it', entries', more', hentries', hrest⟩ :=
        ih outcome (e.quietly k it entries more) (hnext outcome)
      refine ⟨a, it', entries' ++ entries, more ++ more',
        List.forall_mem_append.mpr ⟨hentries', hentries⟩, ?_⟩
      rw [← quietly_quietly, ← hrest]
      show (method.call k args e).attempt.bind (fun outcome => (next outcome).run) = _
      rw [hcall e k rfl rfl]
      rfl
  | sees r next ih => exact ih (e.scene.referred? r) e (hk _)
  | writes r change next ih => exact hk.1.elim
  | reaches change next ih => exact hk.1.elim

/-- Every script ends at once. -/
theorem Chunk.run_finished {α : Type} (k : Chunk α) (e : Engine) :
    ∃ a e', k.run e = .finished (.ok a) e' := by
  induction k generalizing e with
  | ends a => exact ⟨a, e, rfl⟩
  | calls context method args next ih =>
      obtain ⟨outcome, it, entries, more, -, -, hcall⟩ :=
        (call_quiet method args).run e e.registers.it
      obtain ⟨a, e', hrest⟩ := ih outcome (e.quietly context it entries more)
      refine ⟨a, e', ?_⟩
      show (method.call context args e).attempt.bind (fun outcome => (next outcome).run) = _
      rw [hcall e context rfl rfl]
      exact hrest
  | sees r next ih => exact ih (e.scene.referred? r) e
  | writes r change next ih => exact ih { e with scene := e.scene.rewrite r change }
  | reaches change next ih =>
      let changed := change e.toInterior
      exact ih changed.1 { e with toInterior := changed.1, trace := changed.2 ++ e.trace }

end Host

end CardTalk
