/-
How runs can end.

A run that sleeps goes on from the state it finds when it wakes up, so how it ends depends on
what others have made of the state meanwhile.  `Run.Reaches` says how a run can end, given what
the others may do; a run that is put together ends as its parts do, one after the other
(`reaches_bind`).  With others who do nothing a run has one end, the one it comes to when it is
left to itself (`reaches_alone`), and a run that obeys a conduct among others who do ends in a
state that the conduct allows (`Follows.reaches`).
-/
import CardTalk.Proofs.Conduct.Basic

namespace CardTalk.Run

variable {σ α β : Type}

/-- The run can end with an outcome and a state, if others make of a state that it has left what
they may. -/
inductive Reaches (others : σ → σ → Prop) : Run σ α → Except Fault α → σ → Prop
  | finished {outcome : Except Fault α} {s : σ} : Reaches others (finished outcome s) outcome s
  | asleep {seconds : Float} {s s' t : σ} {wake : σ → Run σ α} {outcome : Except Fault α}
      (hs' : others s s') (h : Reaches others (wake s') outcome t) :
      Reaches others (asleep seconds s wake) outcome t

variable {others : σ → σ → Prop} {outcome : Except Fault α} {s t : σ}

@[simp] theorem reaches_finished {outcome' : Except Fault α} :
    (finished outcome s).Reaches others outcome' t ↔ outcome' = outcome ∧ t = s := by
  constructor
  · intro h
    cases h
    exact ⟨rfl, rfl⟩
  · rintro ⟨rfl, rfl⟩
    exact .finished

theorem reaches_asleep {seconds : Float} {wake : σ → Run σ α} :
    (asleep seconds s wake).Reaches others outcome t ↔
      ∃ s', others s s' ∧ (wake s').Reaches others outcome t := by
  constructor
  · intro h
    cases h with
    | asleep hs' h => exact ⟨_, hs', h⟩
  · rintro ⟨s', hs', h⟩
    exact .asleep hs' h

/-- What comes after a run ends what the run has begun, unless the run fails. -/
theorem reaches_bind {next : α → Action σ β} {outcome : Except Fault β} (r : Run σ α) :
    (r.bind next).Reaches others outcome t ↔
      (∃ a s, r.Reaches others (.ok a) s ∧ (next a s).Reaches others outcome t) ∨
        ∃ f, r.Reaches others (.error f) t ∧ outcome = .error f := by
  induction r with
  | finished result s =>
      cases result with
      | ok a => simp [Run.bind, and_assoc]
      | error f =>
          constructor
          · intro h
            obtain ⟨rfl, rfl⟩ := reaches_finished.mp h
            exact .inr ⟨f, .finished, rfl⟩
          · rintro (⟨a, s', h, -⟩ | ⟨f', h, rfl⟩)
            · cases h
            · cases h
              exact .finished
  | asleep seconds s wake ih =>
      simp only [Run.bind, reaches_asleep, ih]
      constructor
      · rintro ⟨s', hs', ⟨a, u, hwake, hnext⟩ | ⟨f, hwake, houtcome⟩⟩
        · exact .inl ⟨a, u, ⟨s', hs', hwake⟩, hnext⟩
        · exact .inr ⟨f, ⟨s', hs', hwake⟩, houtcome⟩
      · rintro (⟨a, u, ⟨s', hs', hwake⟩, hnext⟩ | ⟨f, ⟨s', hs', hwake⟩, houtcome⟩)
        · exact ⟨s', hs', .inl ⟨a, u, hwake, hnext⟩⟩
        · exact ⟨s', hs', .inr ⟨f, hwake, houtcome⟩⟩

/-- A run whose fault has become its result ends as the run does. -/
theorem reaches_attempt {attempted : Except Fault (Except Fault α)} (r : Run σ α) :
    r.attempt.Reaches others attempted t ↔
      ∃ outcome, r.Reaches others outcome t ∧ attempted = .ok outcome := by
  induction r with
  | finished result s =>
      constructor
      · intro h
        obtain ⟨rfl, rfl⟩ := reaches_finished.mp h
        exact ⟨result, .finished, rfl⟩
      · rintro ⟨_, h, rfl⟩
        obtain ⟨rfl, rfl⟩ := reaches_finished.mp h
        exact .finished
  | asleep seconds s wake ih =>
      simp only [attempt, reaches_asleep, ih]
      constructor
      · rintro ⟨s', hs', outcome, h, rfl⟩
        exact ⟨outcome, ⟨s', hs', h⟩, rfl⟩
      · rintro ⟨outcome, ⟨s', hs', h⟩, rfl⟩
        exact ⟨s', hs', outcome, h, rfl⟩

/-- Where nobody interferes, a run ends as it does when it is left to itself. -/
theorem reaches_alone (r : Run σ α) :
    r.Reaches (· = ·) outcome t ↔ r.complete = (outcome, t) := by
  induction r with
  | finished result s => simp [complete, eq_comm]
  | asleep seconds s wake ih => simp [reaches_asleep, complete, ih]

theorem reaches_complete {r : Run σ α} (h : r.complete.1 = outcome) :
    r.Reaches (· = ·) outcome r.complete.2 :=
  (reaches_alone r).mpr (Prod.ext h rfl)

/-- Among others who obey a conduct, a run that obeys it ends in a state that the conduct allows. -/
theorem Follows.reaches {c : Conduct σ} {r : Run σ α} (hr : r.Follows c s)
    (hothers : ∀ s s', others s s' → c.leads s s') (h : r.Reaches others outcome t) :
    c.leads s t := by
  induction h generalizing s with
  | finished => exact hr.1
  | asleep hs' _ ih =>
      have hothers := hothers _ _ hs'
      exact c.trans hr.1.1 (c.trans hothers (ih (hr.2 _ hothers)))

/-! ### One action after the other -/

section

variable {ι : Type} (act : ι → Action σ Unit) (others : σ → σ → Prop)

/-- The actions for the items of a list have been carried out, one after the other and each once,
while others do what they may. -/
inductive InTurn : List ι → σ → σ → Prop
  | none {s : σ} : InTurn [] s s
  | more {i : ι} {rest : List ι} {s s' t : σ} (hi : (act i s).Reaches others (.ok ()) s')
      (h : InTurn rest s' t) : InTurn (i :: rest) s t

/-- How the actions for the items of a list can end. -/
inductive Performed (items : List ι) (s : σ) : Except Fault Unit → σ → Prop
  /-- All of them are carried out. -/
  | all {t : σ} (h : InTurn act others items s t) : Performed items s (.ok ()) t
  /-- One fails, and none are carried out after it. -/
  | cut {before after : List ι} {i : ι} {t t' : σ} {f : Fault}
      (hitems : items = before ++ i :: after) (h : InTurn act others before s t)
      (hi : (act i t).Reaches others (.error f) t') :
      Performed items s (.error f) t'

end

section

variable {ι : Type} {act : ι → Action σ Unit} {items : List ι} {ended : Except Fault Unit}

theorem performed_nil : Performed act others [] s ended t ↔ ended = .ok () ∧ t = s := by
  constructor
  · intro h
    cases h with
    | all h =>
        cases h
        exact ⟨rfl, rfl⟩
    | cut hitems => simp at hitems
  · rintro ⟨rfl, rfl⟩
    exact .all .none

/-- The first action is carried out and the rest end as they do from there, unless the first
fails. -/
theorem performed_cons {i : ι} :
    Performed act others (i :: items) s ended t ↔
      (∃ s', (act i s).Reaches others (.ok ()) s' ∧ Performed act others items s' ended t) ∨
      ∃ f, (act i s).Reaches others (.error f) t ∧ ended = .error f := by
  constructor
  · intro h
    cases h with
    | all h =>
        cases h with
        | more hi h => exact .inl ⟨_, hi, .all h⟩
    | cut hitems h hi =>
        cases h with
        | none =>
            obtain ⟨rfl, rfl⟩ := List.cons.inj hitems
            exact .inr ⟨_, hi, rfl⟩
        | more hi' h =>
            obtain ⟨rfl, rfl⟩ := List.cons.inj hitems
            exact .inl ⟨_, hi', .cut rfl h hi⟩
  · rintro (⟨s', hi, h⟩ | ⟨f, hi, rfl⟩)
    · cases h with
      | all h => exact .all (.more hi h)
      | cut hitems h hi' => exact .cut (congrArg _ hitems) (.more hi h) hi'
    · exact Performed.cut (List.nil_append _).symm .none hi

end

end CardTalk.Run
