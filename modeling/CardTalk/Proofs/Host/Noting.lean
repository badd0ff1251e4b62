/-
What is noted in a context while others run.

What a host-mode script has noted is done after it has ended, and other host-mode scripts may run
meanwhile: inside an action that goes to a card, or while an action waits for an answer.  Each of
them has a context of its own.  They can only add to what is noted in another context, through a
scene that some earlier script has kept for them, and nothing is taken out of it but by the run
that the context was opened for (`Engine.Spares`).  Where every script uses no scene but its own,
they do not even add to it.

This is a conduct (`Conduct.sparing`), so it holds of everything that goes on meanwhile.
-/
import CardTalk.Proofs.Conduct.Dispatch

namespace CardTalk

open Host (noted)

/-- Nothing is taken out of what is noted in a context, and nothing is added to it either if
scripts use only their `own` scenes. -/
structure Engine.Spares (own : Prop) (context : Nat) (e e' : Engine) : Prop where
  world : e'.world = e.world
  contexts : e.hostNotes.length ≤ e'.hostNotes.length
  grows : noted context e <+: noted context e'
  fixed : own → noted context e' = noted context e

namespace Engine.Spares

variable {own : Prop} {context : Nat} {e e' e'' : Engine}

/-- Whoever leaves all notes alone spares those of a context. -/
theorem of_notes (hworld : e'.world = e.world) (hnotes : e'.hostNotes = e.hostNotes) :
    Spares own context e e' := by
  have hnoted : noted context e' = noted context e := by rw [noted, noted, hnotes]
  exact ⟨hworld, hnotes ▸ Nat.le_refl _, hnoted ▸ List.prefix_refl _, fun _ => hnoted⟩

theorem trans (h : Spares own context e e') (h' : Spares own context e' e'') :
    Spares own context e e'' where
  world := h'.world.trans h.world
  contexts := Nat.le_trans h.contexts h'.contexts
  grows := h.grows.trans h'.grows
  fixed hown := (h'.fixed hown).trans (h.fixed hown)

/-- A context is opened for another run. -/
theorem opens (hcontext : context < e.hostNotes.length) :
    Spares own context e { e with hostNotes := e.hostNotes ++ [[]] } := by
  have hnoted : noted context { e with hostNotes := e.hostNotes ++ [[]] } = noted context e := by
    rw [noted, noted, List.getElem?_append_left hcontext]
  refine ⟨rfl, ?_, hnoted ▸ List.prefix_refl _, fun _ => hnoted⟩
  rw [List.length_append]
  exact Nat.le_add_right ..

/-- Something happens to the notes of another context. -/
theorem elsewhere {k : Nat} (hk : k ≠ context) (f : List Host.Deferred → List Host.Deferred) :
    Spares own context e { e with hostNotes := e.hostNotes.modify k f } := by
  have hnoted : noted context { e with hostNotes := e.hostNotes.modify k f } = noted context e := by
    rw [noted, noted, List.getElem?_modify_ne _ _ hk]
  refine ⟨rfl, ?_, hnoted ▸ List.prefix_refl _, fun _ => hnoted⟩
  exact Nat.le_of_eq (List.length_modify ..).symm

/-- Something is added to the notes of the context. -/
theorem adds (hown : ¬own) (hcontext : context < e.hostNotes.length) (d : Host.Deferred) :
    Spares own context e { e with hostNotes := e.hostNotes.modify context (· ++ [d]) } where
  world := rfl
  contexts := Nat.le_of_eq (List.length_modify ..).symm
  grows := by
    rw [noted, noted, List.getElem?_modify_eq, List.getElem?_eq_getElem hcontext]
    exact List.prefix_append ..
  fixed h := absurd h hown

end Engine.Spares

/-- The notes of a context are spared by everyone, as host-mode scripts keep to what they are
offered, and to their own scenes if they have to. -/
def Conduct.sparing (own : Prop) (context : Nat) : Conduct Engine where
  holds e := context < e.hostNotes.length ∧ e.world.host.Keeps .offered ∧
    (own → e.world.host.KeepsOwn)
  leads := Engine.Spares own context
  refl _ := .of_notes rfl rfl
  trans := .trans
  stable h hs := ⟨Nat.lt_of_lt_of_le hs.1 h.contexts, h.world ▸ hs.2⟩

namespace Engine

variable (own : Prop) (context : Nat)

theorem hosted_sparing : Hosted (.sparing own context) := by
  let scope : Host.Scope := ⟨fun k => own → k ≠ context, fun _ => True, False⟩
  have hown_le : ∀ {k}, k ≠ context → (Host.Scope.own k).Le scope := by
    rintro k hk
    exact { calls := by rintro _ rfl _; exact hk }
  have hoffered_le : ¬own → Host.Scope.offered.Le scope := fun hown =>
    { calls := fun _ _ h => absurd h hown }
  refine ⟨scope, (· ≠ context), ?_⟩
  exact {
    calls := fun hk _ => hk
    opens := fun he => ⟨Nat.ne_of_gt he.1, .opens he.1, trivial⟩
    note := fun {e k} he hk d => by
      refine ⟨?_, trivial⟩
      by_cases h : k = context
      · subst h
        exact .adds (fun hown => hk hown rfl) he.1 d
      · exact .elsewhere h _
    forget := fun _ hk => ⟨.elsewhere hk _, trivial⟩
    memory := fun _ _ => ⟨.of_notes rfl rfl, trivial⟩
    keeps := fun {e k} he hk script event origin => by
      have hscene := e.hostMemory.given_scene k event origin
      by_cases hown : own
      · exact (he.2.2 hown e.trace _ script k hscene).mono (hown_le hk)
      · exact (he.2.1 e.trace _ script).mono (hoffered_le hown)
    writes := fun _ _ _ => ⟨.of_notes rfl rfl, trivial⟩
    reaches := fun _ h => h.elim }

theorem stepwise_sparing : Stepwise (.sparing own context) where
  hosted := hosted_sparing own context
  aside _ haside := by cases haside <;> exact .of_notes rfl rfl
  change _ _ := .of_notes rfl rfl
  move _ _ _ _ := .of_notes rfl rfl

end Engine

end CardTalk
