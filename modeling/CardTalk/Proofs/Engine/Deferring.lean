/-
What host-mode scripts ask for is done when they have ended.

While methods are called nothing happens but what `Host.Calling` says, and what the calls have
noted is done afterwards: one action after the other, each of them as `Host.Deferred` says, up to
the first one that fails (`WorkedOff`).  An action that goes to a card may run other host-mode
scripts inside, and each of these works its own list off before its run ends (`HostRun`).

All scripts share one memory, so a script can keep its scene for later ones, and these can add to
the list of the context while it is being worked off: what they add comes last and is done once
like the rest (`host_actions_added`).  Nothing is ever taken out of the list.  Where every script
uses no scene but its own, the list is fixed when it begins to be worked off.
-/
import CardTalk.Proofs.Engine.Reporting
import CardTalk.Proofs.Host.Calling
import CardTalk.Proofs.Host.Deferred
import CardTalk.Proofs.Host.Line
import CardTalk.Proofs.Host.Noting

namespace CardTalk.Engine

open Host (Deferred noted)
open Run (InTurn Performed)

variable {dispatch : Dispatch} {others : Engine → Engine → Prop} {context : Nat}
  {e t : Engine} {outcome : Except Fault Unit}

/-! ### What has been noted in a context -/

/-- The engine without what has been noted in a context. -/
def forgetting (context : Nat) (e : Engine) : Engine :=
  { e with hostNotes := e.hostNotes.modify context fun _ => [] }

section

variable (dispatch : Dispatch) (others : Engine → Engine → Prop) (context : Nat)

/-- How it can end to do what has been noted in a context, if some of it has been `done` and no
more than `most` actions are left.  Every action is looked up in the list as it is by then, behind
those that have been done. -/
inductive WorkedOff : (most : Nat) → (done : List Deferred) → Engine → Except Fault Unit → Engine →
    Prop
  /-- There is nothing behind what has been done. -/
  | all {most : Nat} {done : List Deferred} {e : Engine} (hnoted : noted context e = done) :
      WorkedOff (most + 1) done e (.ok ()) (e.forgetting context)
  | next {most : Nat} {done rest : List Deferred} {d : Deferred} {e e' t : Engine}
      {outcome : Except Fault Unit} (hnoted : noted context e = done ++ d :: rest)
      (hd : Directly dispatch others d e (.ok ()) e')
      (h : WorkedOff most (done ++ [d]) e' outcome t) : WorkedOff (most + 1) done e outcome t
  /-- One fails, and none are done after it. -/
  | cut {most : Nat} {done rest : List Deferred} {d : Deferred} {e t : Engine} {f : Fault}
      (hnoted : noted context e = done ++ d :: rest)
      (hd : Directly dispatch others d e (.error f) t) : WorkedOff (most + 1) done e (.error f) t
  /-- More has been added than is ever done. -/
  | endless {done : List Deferred} {e : Engine} : WorkedOff 0 done e (.error .endlessActions) e

end

theorem workOff_all {most : Nat} {done : List Deferred} (hnoted : noted context e = done) :
    workOff dispatch context (most + 1) done.length e =
      .finished (.ok ()) (e.forgetting context) := by
  rw [workOff, get_bind, hnoted, List.getElem?_length]
  rfl

theorem workOff_next {most : Nat} {done rest : List Deferred} {d : Deferred}
    (hnoted : noted context e = done ++ d :: rest) :
    workOff dispatch context (most + 1) done.length e =
      (performDeferred dispatch d e).bind fun _ =>
        workOff dispatch context most (done ++ [d]).length := by
  rw [workOff, get_bind, hnoted, List.getElem?_append_right (Nat.le_refl _), Nat.sub_self,
    List.length_append]
  rfl

theorem performNoted_eq (dispatch : Dispatch) (context : Nat) (e : Engine) :
    performNoted dispatch context e =
      workOff dispatch context ((noted context e).length + sparePerformances + 1)
        ([] : List Deferred).length e :=
  get_bind _ e

section

variable {own : Prop} {depth : Nat} (hothers : ∀ s s', others s s' → s.Spares own context s')

include hothers

/-- An action that has been noted leaves the rest of the list to those that come after it. -/
theorem performDeferred_spares (he : (Conduct.sparing own context).holds e) {d : Deferred}
    (h : (performDeferred (dispatchAt depth) d e).Reaches others outcome t) :
    (Conduct.sparing own context).holds t ∧ e.Spares own context t := by
  have hfair := (stepwise_sparing own context).lawful.fair
  have hspares : e.Spares own context t :=
    ((hfair.performDeferred (hfair.dispatchAt depth) d).run he).reaches hothers h
  exact ⟨(Conduct.sparing own context).stable hspares he, hspares⟩

/-- When the next action has been done, the list begins with it and those before it, whatever has
been added. -/
theorem performDeferred_behind (he : (Conduct.sparing own context).holds e) {d : Deferred}
    {done rest : List Deferred} (hnoted : noted context e = done ++ d :: rest)
    (h : (performDeferred (dispatchAt depth) d e).Reaches others outcome t) :
    (Conduct.sparing own context).holds t ∧ done ++ [d] <+: noted context t := by
  obtain ⟨ht, hspares⟩ := performDeferred_spares hothers he h
  have hbegins : done ++ [d] <+: noted context e := ⟨rest, by rw [hnoted, ← List.append_cons]⟩
  exact ⟨ht, hbegins.trans hspares.grows⟩

theorem workOff_reaches (he : (Conduct.sparing own context).holds e) {most : Nat}
    {done : List Deferred} (hdone : done <+: noted context e) :
    (workOff (dispatchAt depth) context most done.length e).Reaches others outcome t ↔
      WorkedOff (dispatchAt depth) others context most done e outcome t := by
  induction most generalizing done e with
  | zero =>
      refine Run.reaches_finished.trans ⟨?_, fun h => ?_⟩
      · rintro ⟨rfl, rfl⟩
        exact .endless
      · cases h with
        | endless => exact ⟨rfl, rfl⟩
  | succ most ih =>
      obtain ⟨rest, hnoted⟩ := hdone
      cases rest with
      | nil =>
          rw [List.append_nil] at hnoted
          rw [workOff_all hnoted.symm]
          refine Run.reaches_finished.trans ⟨?_, fun h => ?_⟩
          · rintro ⟨rfl, rfl⟩
            exact .all hnoted.symm
          · cases h with
            | all => exact ⟨rfl, rfl⟩
            | next hnoted' | cut hnoted' => simp [← hnoted] at hnoted'
      | cons d rest =>
          rw [workOff_next hnoted.symm, Run.reaches_bind]
          constructor
          · rintro (⟨_, e', hd, hrest⟩ | ⟨f, hd, rfl⟩)
            · obtain ⟨he', hdone⟩ := performDeferred_behind hothers he hnoted.symm hd
              exact .next hnoted.symm ((performDeferred_reaches d).mp hd) ((ih he' hdone).mp hrest)
            · exact .cut hnoted.symm ((performDeferred_reaches d).mp hd)
          · intro h
            cases h with
            | all hnoted' => simp [← hnoted] at hnoted'
            | next hnoted' hd hrest =>
                obtain ⟨rfl, rfl⟩ := List.cons.inj
                  (List.append_cancel_left (hnoted.trans hnoted'))
                have hd := (performDeferred_reaches _).mpr hd
                obtain ⟨he', hdone⟩ := performDeferred_behind hothers he hnoted' hd
                exact .inl ⟨(), _, hd, (ih he' hdone).mpr hrest⟩
            | cut hnoted' hd =>
                obtain ⟨rfl, rfl⟩ := List.cons.inj
                  (List.append_cancel_left (hnoted.trans hnoted'))
                exact .inr ⟨_, (performDeferred_reaches _).mpr hd, rfl⟩

/-- **What is noted in a context is done once and in order.**  When all has been done, that is the
list as it was, and behind it what has been added meanwhile. -/
theorem WorkedOff.inTurn (he : (Conduct.sparing own context).holds e) {most : Nat}
    {done rest : List Deferred} (hnoted : noted context e = done ++ rest)
    (h : WorkedOff (dispatchAt depth) others context most done e (.ok ()) t) :
    ∃ added e', InTurn (performDeferred (dispatchAt depth)) others (rest ++ added) e e' ∧
      noted context e' = done ++ (rest ++ added) ∧ t = e'.forgetting context := by
  generalize houtcome : Except.ok () = outcome at h
  induction h generalizing rest with
  | @all _ done e hdone =>
      obtain rfl : rest = [] := List.append_right_eq_self.mp (hnoted.symm.trans hdone)
      refine ⟨[], e, .none, ?_, rfl⟩
      rw [hdone, List.append_nil, List.append_nil]
  | @next _ done rest' d e e' t outcome hnoted' hd _ ih =>
      obtain rfl : rest = d :: rest' := List.append_cancel_left (hnoted.symm.trans hnoted')
      have hd := (performDeferred_reaches d).mpr hd
      obtain ⟨he', hspares⟩ := performDeferred_spares hothers he hd
      obtain ⟨more, hgrown⟩ := hspares.grows
      have hgrown : noted context e' = done ++ [d] ++ (rest' ++ more) := by
        rw [← hgrown, hnoted']
        simp only [List.append_assoc, List.cons_append, List.nil_append]
      obtain ⟨added, e'', hturn, hends, rfl⟩ := ih he' hgrown houtcome
      refine ⟨more ++ added, e'', ?_, ?_, rfl⟩
      · rw [← List.append_assoc, List.cons_append, List.cons_append]
        exact .more hd hturn
      · rw [hends]
        simp only [List.append_assoc, List.cons_append, List.nil_append]
  | cut => cases houtcome
  | endless => cases houtcome

end

section

variable {own : Prop} {depth : Nat} (hothers : ∀ s s', others s s' → s.Spares own context s')

include hothers

/-- Where every script uses no scene but its own, the list that is worked off is fixed. -/
theorem workOff_fixed (hown : own) (he : (Conduct.sparing own context).holds e) {most : Nat}
    {done rest : List Deferred} (hnoted : noted context e = done ++ rest)
    (hmost : rest.length < most) :
    (workOff (dispatchAt depth) context most done.length e).Reaches others outcome t ↔
      (∃ e', InTurn (performDeferred (dispatchAt depth)) others rest e e' ∧ outcome = .ok () ∧
        t = e'.forgetting context) ∨
      ∃ f, Performed (performDeferred (dispatchAt depth)) others rest e (.error f) t ∧
        outcome = .error f := by
  obtain ⟨most, rfl⟩ : ∃ most', most = most' + 1 := Nat.exists_eq_add_one.mpr (by omega)
  induction rest generalizing most done e with
  | nil =>
      rw [List.append_nil] at hnoted
      rw [workOff_all hnoted]
      refine Run.reaches_finished.trans ⟨?_, ?_⟩
      · rintro ⟨rfl, rfl⟩
        exact .inl ⟨e, .none, rfl, rfl⟩
      · rintro (⟨e', hnone, rfl, rfl⟩ | ⟨f, hcut, -⟩)
        · cases hnone
          exact ⟨rfl, rfl⟩
        · cases (Run.performed_nil.mp hcut).1
  | cons d rest ih =>
      obtain ⟨most, rfl⟩ : ∃ most', most = most' + 1 := by
        refine Nat.exists_eq_add_one.mpr ?_
        rw [List.length_cons] at hmost
        omega
      have hrest {e' : Engine}
          (hd : (performDeferred (dispatchAt depth) d e).Reaches others (.ok ()) e') :=
        have ⟨he', hspares⟩ := performDeferred_spares hothers he hd
        have hnoted' : noted context e' = (done ++ [d]) ++ rest :=
          ((hspares.fixed hown).trans hnoted).trans (List.append_cons ..)
        ih he' hnoted' most (Nat.lt_of_succ_lt_succ hmost)
      rw [workOff_next hnoted, Run.reaches_bind]
      constructor
      · rintro (⟨_, e', hd, h⟩ | ⟨f, hd, rfl⟩)
        · rcases (hrest hd).mp h with ⟨e'', hturn, rfl, rfl⟩ | ⟨f, hcut, rfl⟩
          · exact .inl ⟨e'', .more hd hturn, rfl, rfl⟩
          · exact .inr ⟨f, Run.performed_cons.mpr (.inl ⟨e', hd, hcut⟩), rfl⟩
        · exact .inr ⟨f, Run.performed_cons.mpr (.inr ⟨f, hd, rfl⟩), rfl⟩
      · rintro (⟨e'', hturn, rfl, rfl⟩ | ⟨f, hcut, rfl⟩)
        · cases hturn with
          | more hd hturn => exact .inl ⟨(), _, hd, (hrest hd).mpr (.inl ⟨e'', hturn, rfl, rfl⟩)⟩
        · rcases Run.performed_cons.mp hcut with ⟨e', hd, hcut⟩ | ⟨f', hd, hf⟩
          · exact .inl ⟨(), e', hd, (hrest hd).mpr (.inr ⟨f, hcut, rfl⟩)⟩
          · cases hf
            exact .inr ⟨f, hd, rfl⟩

end

/-! ### Runs of host-mode scripts -/

/-- The engine with a context for another run. -/
def opened (e : Engine) : Engine := { e with hostNotes := e.hostNotes ++ [[]] }

section

variable (dispatch : Dispatch) (others : Engine → Engine → Prop) (script event : Text)
  (origin : Option Text) (e : Engine)

/-- How the run of a host-mode script can end: what its script has noted is done when the script
has ended, and the scene is shown and saved when all of that is done. -/
inductive HostRun : Except Fault Unit → Engine → Prop
  | broken {e' : Engine} {f : Fault}
      (hscript : Host.runIn e.hostNotes.length script event origin e.opened =
        .finished (.error f) e') : HostRun (.error f) e'
  | done {e' t t' : Engine} {outcome : Except Fault Unit}
      (hscript : Host.runIn e.hostNotes.length script event origin e.opened =
        .finished (.ok ()) e')
      (h : (performNoted dispatch e.hostNotes.length e').Reaches others (.ok ()) t)
      (hshown : (notifyChanged t).Reaches others outcome t') : HostRun outcome t'
  | cut {e' t : Engine} {f : Fault}
      (hscript : Host.runIn e.hostNotes.length script event origin e.opened =
        .finished (.ok ()) e')
      (h : (performNoted dispatch e.hostNotes.length e').Reaches others (.error f) t) :
      HostRun (.error f) t

end

theorem runIn_eq (context : Nat) (script event : Text) (origin : Option Text) (e : Engine) :
    Host.runIn context script event origin e =
      ((e.world.host e.trace (e.hostMemory.given context event origin) script).run e).bind
        fun r e => .finished r.1.outcome { e with hostMemory := r.2 } := rfl

/-- A script ends at once. -/
theorem runIn_finished (context : Nat) (script event : Text) (origin : Option Text) (e : Engine) :
    ∃ outcome e', Host.runIn context script event origin e = .finished outcome e' := by
  obtain ⟨r, e', hrun⟩ := Host.Chunk.run_finished
    (e.world.host e.trace (e.hostMemory.given context event origin) script) e
  rw [runIn_eq, hrun]
  exact ⟨r.1.outcome, { e' with hostMemory := r.2 }, rfl⟩

section

variable {script event : Text} {origin : Option Text}

theorem runHost_reaches :
    (runHost dispatch script event origin e).Reaches others outcome t ↔
      HostRun dispatch others script event origin e outcome t := by
  obtain ⟨result, e', hscript⟩ :=
    runIn_finished e.hostNotes.length script event origin e.opened
  have hrun : runHost dispatch script event origin e =
      (Host.runIn e.hostNotes.length script event origin e.opened).bind fun _ =>
        performNoted dispatch e.hostNotes.length >>= fun _ => notifyChanged := rfl
  rw [hrun, hscript]
  cases result with
  | error f =>
      refine Run.reaches_finished.trans ⟨?_, fun h => ?_⟩
      · rintro ⟨rfl, rfl⟩
        exact .broken hscript
      · cases h with
        | broken hscript' =>
            cases hscript.symm.trans hscript'
            exact ⟨rfl, rfl⟩
        | done hscript' | cut hscript' => cases hscript.symm.trans hscript'
  | ok _ =>
      have hbind : ((performNoted dispatch e.hostNotes.length e').bind
          fun _ => notifyChanged).Reaches others outcome t ↔ _ := Run.reaches_bind _
      refine hbind.trans ⟨?_, fun h => ?_⟩
      · rintro (⟨_, t', h, hshown⟩ | ⟨f, h, rfl⟩)
        · exact .done hscript h hshown
        · exact .cut hscript h
      · cases h with
        | broken hscript' => cases hscript.symm.trans hscript'
        | done hscript' h hshown =>
            cases hscript.symm.trans hscript'
            exact .inl ⟨(), _, h, hshown⟩
        | cut hscript' h =>
            cases hscript.symm.trans hscript'
            exact .inr ⟨_, h, rfl⟩

/-- A host-mode script counts as handled when its run has succeeded. -/
theorem runScript_hostMode (hhost : e.settings.hostMarker.any (Script.isHostMode script))
    {outcome : Except Fault Bool} :
    (runScript dispatch script event origin e).Reaches others outcome t ↔
      (HostRun dispatch others script event origin e (.ok ()) t ∧ outcome = .ok true) ∨
      ∃ f, HostRun dispatch others script event origin e (.error f) t ∧ outcome = .error f := by
  have hrun : runScript dispatch script event origin e =
      (runHost dispatch script event origin e).bind fun _ => pure true := by
    show (if e.settings.hostMarker.any (Script.isHostMode script) then _ else _ :
      Action Engine Bool) e = _
    rw [if_pos hhost]
    rfl
  rw [hrun, Run.reaches_bind]
  simp only [runHost_reaches]
  refine or_congr ⟨?_, ?_⟩ Iff.rfl
  · rintro ⟨_, s, h, hpure⟩
    obtain ⟨rfl, rfl⟩ := Run.reaches_finished.mp hpure
    exact ⟨h, rfl⟩
  · rintro ⟨h, rfl⟩
    exact ⟨(), t, h, .finished⟩

/-- How a dispatch can end that runs a host-mode script: the event is handled, or the failure of
the run is reported. -/
theorem dispatchAt_hostMode {depth : Nat} (hblank : ¬Text.allBlank script)
    (hhost : e.settings.hostMarker.any (Script.isHostMode script)) {handled : Except Fault Bool} :
    (dispatchAt (depth + 1) event script origin e).Reaches others handled t ↔
      (HostRun (dispatchAt depth) others script event origin e (.ok ()) t ∧ handled = .ok true) ∨
      ∃ f e', HostRun (dispatchAt depth) others script event origin e (.error f) e' ∧
        ((reportFailure event origin f >>= fun _ => pure false : Action Engine Bool) e').Reaches
          others handled t := by
  have hrun : dispatchAt (depth + 1) event script origin e =
      (runScript (dispatchAt depth) script event origin e).attempt.bind (settle event origin) :=
    (dispatchWith_eq (dispatchAt depth) event script origin e).trans (if_neg hblank)
  rw [hrun, Run.reaches_bind]
  simp only [Run.reaches_attempt, runScript_hostMode hhost]
  constructor
  · rintro (⟨_, s, ⟨_, ⟨h, rfl⟩ | ⟨f, h, rfl⟩, hresult⟩, hnext⟩ | ⟨f, ⟨_, -, hresult⟩, -⟩)
    · obtain rfl := Except.ok.inj hresult
      obtain ⟨rfl, rfl⟩ := Run.reaches_finished.mp hnext
      exact .inl ⟨h, rfl⟩
    · obtain rfl := Except.ok.inj hresult
      exact .inr ⟨f, s, h, hnext⟩
    · exact nomatch hresult
  · rintro (⟨h, rfl⟩ | ⟨f, e', h, hnext⟩)
    · exact .inl ⟨.ok true, t, ⟨.ok true, .inl ⟨h, rfl⟩, rfl⟩, .finished⟩
    · exact .inl ⟨.error f, e', ⟨.error f, .inr ⟨f, h, rfl⟩, rfl⟩, hnext⟩

end

/-! ### Calls and what they have noted -/

/-- The engine when methods have been called in a context that was opened for them. -/
def asked (e : Engine) (it : Text) (entries : List Event) (notes : List Deferred) : Engine :=
  { e with
    registers := { e.registers with it }
    hostNotes := e.hostNotes ++ [notes]
    trace := entries ++ e.trace }

theorem opened_quietly (e : Engine) (it : Text) (entries : List Event) (notes : List Deferred) :
    e.opened.quietly e.hostNotes.length it entries notes = e.asked it entries notes := by
  have hnotes : (e.hostNotes ++ [[]]).modify e.hostNotes.length (· ++ notes) =
      e.hostNotes ++ [notes] := by
    induction e.hostNotes with
    | nil => rfl
    | cons first rest ih => exact congrArg (first :: ·) ih
  rw [quietly, opened, asked, hnotes]

/-- Calls that are answered are followed by what they have noted; where one of them fails, nothing
follows. -/
theorem callHostWith_reaches {calls : List Host.Call} {e' : Engine}
    {answers result : Except Fault (List Host.Result)} :
    calls.mapM (fun call => Host.callByName e.hostNotes.length call.1 call.2) e.opened =
        .finished answers e' →
      ((callHostWith dispatch calls e).Reaches others result t ↔
        match answers with
        | .error f => result = .error f ∧ t = e'
        | .ok results => ∃ worked,
          (performNoted dispatch e.hostNotes.length e').Reaches others worked t ∧
            result = worked.map fun _ => results) := by
  intro hcalls
  have hrun : callHostWith dispatch calls e =
      (calls.mapM (fun call => Host.callByName e.hostNotes.length call.1 call.2) e.opened).bind
        fun results => performNoted dispatch e.hostNotes.length >>= fun _ => pure results := rfl
  rw [hrun, hcalls]
  cases answers with
  | error f => exact Run.reaches_finished
  | ok results =>
      have hbind : ((performNoted dispatch e.hostNotes.length e').bind
          fun _ => pure results).Reaches others result t ↔ _ := Run.reaches_bind _
      refine hbind.trans ⟨?_, ?_⟩
      · rintro (⟨_, t', h, hpure⟩ | ⟨f, h, rfl⟩)
        · obtain ⟨rfl, rfl⟩ := Run.reaches_finished.mp hpure
          exact ⟨.ok (), h, rfl⟩
        · exact ⟨.error f, h, rfl⟩
      · rintro ⟨worked, h, rfl⟩
        cases worked with
        | ok _ => exact .inl ⟨(), t, h, .finished⟩
        | error f => exact .inr ⟨f, h, rfl⟩

/-- A script that calls nothing but the methods of its own scene is answered like any calls. -/
theorem runIn_quiet {script event : Text} {origin : Option Text}
    (hscript : (e.world.host e.trace (e.hostMemory.given context event origin) script).Within
      (.ownMethods context)) :
    ∃ outcome it memory entries notes, (∀ entry ∈ entries, Event.IsNote entry) ∧
      Host.runIn context script event origin e = .finished outcome
        { e.quietly context it entries notes with hostMemory := memory } := by
  obtain ⟨r, it, entries, notes, hentries, hrun⟩ := Host.Chunk.run_quiet e hscript
  refine ⟨r.1.outcome, it, r.2, entries, notes, hentries, ?_⟩
  rw [runIn_eq, hrun]
  rfl

/-- **What host-mode scripts ask for is done afterwards, in order.**  Whatever methods are called,
the engine is as before when all calls have been answered, but for `it`, the log and what is noted
in the context of the calls; each call is answered from the engine as it was, and `it` as only
`set_it` has changed it.  If a call fails, nothing else happens; else what has been noted is done.
The same is true of a script that calls the methods of its scene.

Every action is done directly on the engine.  What is noted in a context is done once and in
order, up to the first action that fails, and nobody else takes anything out of it: other dispatches
can only add to it, and not even that if every script uses no scene but its own.  So the actions
that follow are the same as before when an action runs host-mode scripts, and each of these does
what it has noted itself before its run ends. -/
theorem host_actions_deferred :
    (∀ (e : Engine) (calls : List Host.Call), ∃ answers it entries notes,
      let e' := e.asked it entries notes
      Host.Answered e e.registers.it calls answers it notes ∧ (∀ entry ∈ entries, entry.IsNote) ∧
      calls.mapM (fun call => Host.callByName e.hostNotes.length call.1 call.2) e.opened =
        .finished answers e' ∧
      ∀ dispatch others result t, (callHostWith dispatch calls e).Reaches others result t ↔
        match answers with
        | .error f => result = .error f ∧ t = e'
        | .ok results => ∃ worked,
          (performNoted dispatch e.hostNotes.length e').Reaches others worked t ∧
            result = worked.map fun _ => results) ∧
    (∀ context script event origin (e : Engine),
      (e.world.host e.trace (e.hostMemory.given context event origin) script).Within
        (.ownMethods context) →
      ∃ outcome it memory entries notes, (∀ entry ∈ entries, Event.IsNote entry) ∧
        Host.runIn context script event origin e = .finished outcome
          { e.quietly context it entries notes with hostMemory := memory }) ∧
    (∀ dispatch others d e outcome t, (performDeferred dispatch d e).Reaches others outcome t ↔
      Directly dispatch others d e outcome t) ∧
    (∀ (own : Prop) context (e : Engine), context < e.hostNotes.length →
      e.world.host.Keeps .offered → (own → e.world.host.KeepsOwn) →
      ∀ others, (∀ s s', others s s' → s.Spares own context s') → ∀ depth,
      (∀ event script origin handled t,
        (dispatchAt depth event script origin e).Reaches others handled t →
          e.Spares own context t) ∧
      (∀ outcome t, (performNoted (dispatchAt depth) context e).Reaches others outcome t ↔
        WorkedOff (dispatchAt depth) others context
          ((noted context e).length + sparePerformances + 1) [] e outcome t) ∧
      (∀ t, (performNoted (dispatchAt depth) context e).Reaches others (.ok ()) t →
        ∃ added e', InTurn (performDeferred (dispatchAt depth)) others
            (noted context e ++ added) e e' ∧
          noted context e' = noted context e ++ added ∧ t = e'.forgetting context) ∧
      (own → ∀ outcome t,
        (performNoted (dispatchAt depth) context e).Reaches others outcome t ↔
          (∃ e', InTurn (performDeferred (dispatchAt depth)) others (noted context e) e e' ∧
            outcome = .ok () ∧ t = e'.forgetting context) ∨
          ∃ f, Performed (performDeferred (dispatchAt depth)) others (noted context e) e
              (.error f) t ∧
            outcome = .error f)) ∧
    ∀ depth script (e : Engine), ¬Text.allBlank script →
      e.settings.hostMarker.any (Script.isHostMode script) → ∀ others event origin handled t,
        (dispatchAt (depth + 1) event script origin e).Reaches others handled t ↔
          (HostRun (dispatchAt depth) others script event origin e (.ok ()) t ∧
            handled = .ok true) ∨
          ∃ f e', HostRun (dispatchAt depth) others script event origin e (.error f) e' ∧
            ((reportFailure event origin f >>= fun _ => pure false : Action Engine Bool)
              e').Reaches others handled t := by
  refine ⟨fun e calls => ?_, fun _ _ _ _ _ => runIn_quiet,
    fun _ _ d _ _ _ => performDeferred_reaches d,
    fun own context e hcontext hoffered hown others hothers depth => ?_,
    fun _ _ _ hblank hhost _ _ _ _ _ => dispatchAt_hostMode hblank hhost⟩
  · obtain ⟨answers, it, entries, notes, hanswered, hentries, hcalls⟩ :=
      Host.mapM_answered e e.hostNotes.length calls e.registers.it
    have hcalls := hcalls e.opened rfl rfl
    rw [opened_quietly] at hcalls
    exact ⟨answers, it, entries, notes, hanswered, hentries, hcalls,
      fun _ _ _ _ => callHostWith_reaches hcalls⟩
  · have he : (Conduct.sparing own context).holds e := ⟨hcontext, hoffered, hown⟩
    have hfair := (stepwise_sparing own context).lawful.fair
    have hworked (outcome : Except Fault Unit) (t : Engine) :
        (performNoted (dispatchAt depth) context e).Reaches others outcome t ↔
          WorkedOff (dispatchAt depth) others context
            ((noted context e).length + sparePerformances + 1) [] e outcome t := by
      rw [performNoted_eq]
      exact workOff_reaches hothers he List.nil_prefix
    refine ⟨fun event script origin _ _ h => ?_, hworked, fun t h => ?_, fun hown outcome t => ?_⟩
    · exact ((hfair.dispatchAt depth event script origin).run he).reaches hothers h
    · exact WorkedOff.inTurn hothers he (List.nil_append _).symm ((hworked _ _).mp h)
    · rw [performNoted_eq]
      exact workOff_fixed hothers hown he (List.nil_append _).symm
        (Nat.lt_succ_of_le (Nat.le_add_right ..))

/-- A runtime for which every script asks for its own text to be shown. -/
def echoing : Host.Runtime := fun _ memory script =>
  match memory.globals.get? "scene" with
  | some (.scene context) => .calls context .alert [.text script] fun
    | .ok _ => .ends (.returned, memory)
    | .error f => .ends (.raised f, memory)
  | _ => .ends (.returned, memory)

/-- An engine on the first of two cards, both of which may have a script. -/
def relaying (host : Host.Runtime) (second : Text) : Engine :=
  .new (.assemble (.usual "s") []
      [.usual "a" "A", { Card.usual "b" "B" with script := "-- @lua\n" ++ second }] 0 0)
    { hostMarker := some "-- @lua", repeatLimit := .null, ticksPerSecond := .null
      serializeEvents := .ok true, idleInterval := .ok .null, isServed := .ok false }
    { console := none, replies := [], failure := fun _ => none }
    { World.still .bare with host }

/-- What a host-mode script may call: two alerts with a journey between them. -/
def relayed : List Host.Call :=
  [("alert", [.text "first"]), ("go", [.text "B"]), ("set_it", [.text "x"]), ("get_it", []),
    ("alert", [.text "last"])]

theorem echoing_within (events : List Event) {memory : Host.Memory} (script : Text)
    (hscene : memory.globals.get? "scene" = some (.scene context)) :
    (echoing events memory script).Within (.ownMethods context) := by
  unfold echoing
  rw [hscene]
  refine ⟨rfl, fun answer => ?_⟩
  cases answer <;> trivial

theorem echoing_keepsOwn : echoing.KeepsOwn := fun events _ script _ hscene =>
  (echoing_within events script hscene).mono (Host.Scope.ownMethods_le_own _)

theorem echoing_keeps : echoing.Keeps .offered := by
  intro _ memory script
  unfold echoing
  split
  · refine ⟨trivial, fun answer => ?_⟩
    cases answer <;> trivial
  · trivial

/-- The script of the card that is gone to shows its own alert before the outer list goes on. -/
theorem host_actions_deferred_relayed :
    let e := relaying echoing "in"
    let run := callHostWith (dispatchAt 2) relayed e
    let notes : List Deferred := [.alert "first", .go (.text "B"), .alert "last"]
    (∃ e' t : Engine, e'.scene = e.scene ∧ e'.registers.it = "x" ∧
      InTurn (performDeferred (dispatchAt 2)) (· = ·) notes e' t ∧
      run.complete.2 = t.forgetting 0) ∧
    run.complete.1 = .ok [Host.nothing, Host.nothing, Host.nothing, .value (.text "x"),
      Host.nothing] ∧
    run.complete.2.trace.reverse = [.alert [] "first", .render, .save, .alert [] "-- @lua\nin",
      .render, .save, .alert [] "last"] ∧
    (∃ outcome it memory entries notes, Host.runIn 0 "-- @lua\nin" "openCard" none e.opened =
      .finished outcome
        { e.opened.quietly 0 it entries notes with hostMemory := memory }) ∧
    ∃ t, HostRun (dispatchAt 1) (· = ·) "-- @lua\nin" "openCard" none e (.ok ()) t := by
  intro e run notes
  have hresult : run.complete.1 = .ok [Host.nothing, Host.nothing, Host.nothing,
      .value (.text "x"), Host.nothing] := by decide +kernel
  obtain ⟨hcalls, hquiet, -, hworked, hnested⟩ := host_actions_deferred
  refine ⟨?_, hresult, by decide +kernel, ?_, ?_⟩
  · obtain ⟨answers, it, entries, notes', -, -, hcalls, hends⟩ := hcalls e relayed
    have hasked : let asked := (relayed.mapM (fun call =>
          Host.callByName e.hostNotes.length call.1 call.2) e.opened).complete
        asked.1 = .ok [Host.nothing, Host.nothing, Host.nothing, .value (.text "x"),
          Host.nothing] ∧
        asked.2.hostNotes = [notes] ∧ asked.2.registers.it = "x" := by decide +kernel
    rw [hcalls] at hasked
    obtain ⟨hcalled, hnoted, hit⟩ := hasked
    obtain rfl : answers = _ := hcalled
    obtain rfl : notes' = notes := (List.cons.inj hnoted).1
    obtain ⟨worked, hdone, hends⟩ := (hends (dispatchAt 2) (· = ·) run.complete.1 run.complete.2).mp
      (Run.reaches_complete rfl)
    obtain ⟨-, -, -, hfixed⟩ := hworked True 0 (e.asked it entries notes) Nat.zero_lt_one
      echoing_keeps (fun _ => echoing_keepsOwn) (· = ·)
      (fun _ _ h => h ▸ .of_notes rfl rfl) 2
    rcases (hfixed trivial worked run.complete.2).mp hdone with ⟨t, hturn, -, ht⟩ | ⟨f, -, rfl⟩
    · exact ⟨e.asked it entries notes, t, rfl, hit, hturn, ht⟩
    · cases hresult.symm.trans hends
  · obtain ⟨outcome, it, memory, entries, notes', -, hrun⟩ :=
      hquiet 0 "-- @lua\nin" "openCard" none e.opened
        (echoing_within e.trace _ (e.hostMemory.given_scene 0 "openCard" none))
    exact ⟨outcome, it, memory, entries, notes', hrun⟩
  · let entered := dispatchAt 2 "openCard" "-- @lua\nin" none e
    have hentered : entered.complete.1 = .ok true := by decide +kernel
    rcases (hnested 1 "-- @lua\nin" e (by decide) (by decide) (· = ·) "openCard" none (.ok true)
      entered.complete.2).mp (Run.reaches_complete hentered) with ⟨h, -⟩ | ⟨f, e', -, hreport⟩
    · exact ⟨_, h⟩
    · rcases (Run.reaches_bind (reportFailure "openCard" none f e')).mp hreport with
        ⟨_, s, -, hpure⟩ | ⟨g, -, hg⟩
      · cases (Run.reaches_finished.mp hpure).1
      · cases hg

/-- A script of the small language that keeps its scene and goes to another card. -/
def keeping : Text := "-- @lua\nkeep = scene\nscene.go(2)\nscene.alert(\"last\")"

/-- The script of that card takes the scene that has been kept for its own, and so adds to what
is being done already. -/
theorem host_actions_added :
    let e := relaying Host.Line.runtime "scene = keep\nscene.alert(\"late\")"
    let asked := (Host.runIn 0 keeping "mouseUp" none e.opened).complete.2
    let gone := (performDeferred (dispatchAt 2) (.go (.int 2)) asked).complete.2
    noted 0 asked = [.go (.int 2), .alert "last"] ∧
    noted 0 gone = [.go (.int 2), .alert "last", .alert "late"] ∧
    (dispatchAt 3 "mouseUp" keeping none e).complete.2.trace.reverse =
      [.render, .save, .render, .save, .alert [] "last", .alert [] "late", .render, .save] := by
  decide +kernel

end CardTalk.Engine
