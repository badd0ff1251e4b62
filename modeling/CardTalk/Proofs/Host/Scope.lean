/-
What host-mode scripts may do.

Their runtime is no part of this library, so what is known of it has to be assumed.  A `Scope`
says on which contexts' scenes scripts call methods, how they write into entities, and whether
they get at the inside of the engine; a runtime keeps to a scope if every script does on every
path, whatever it is answered (`Chunk.Within`).

Scripts are offered the methods of their scenes and, through these, the entities
(`Scope.offered`).  Some properties need more: that scripts leave the entities alone
(`Scope.methods`), or that they do not use scenes that other scripts were given (`Scope.own`).
-/
import CardTalk.Proofs.Table
import CardTalk.World

namespace CardTalk.Host

/-- What a script may do. -/
structure Scope where
  /-- The contexts on whose scenes it calls methods. -/
  calls : Nat → Prop
  /-- How it writes into entities. -/
  writes : (Entity → Entity) → Prop
  /-- Whether it gets at the inside of the engine. -/
  reaches : Prop

namespace Scope

/-- What scripts are offered: the methods of scenes, and the entities. -/
def offered : Scope := ⟨fun _ => True, fun _ => True, False⟩

/-- The methods of scenes only. -/
def methods : Scope := ⟨fun _ => True, fun _ => False, False⟩

/-- What a script is offered that uses no scene but that of its own context. -/
def own (context : Nat) : Scope := ⟨(· = context), fun _ => True, False⟩

/-- Everything. -/
def all : Scope := ⟨fun _ => True, fun _ => True, True⟩

/-- A scope is part of another. -/
structure Le (scope scope' : Scope) : Prop where
  calls : ∀ k, scope.calls k → scope'.calls k := by exact fun _ _ => trivial
  writes : ∀ change, scope.writes change → scope'.writes change := by exact fun _ _ => trivial
  reaches : scope.reaches → scope'.reaches := by exact id

end Scope

namespace Chunk

variable {α β : Type} {scope scope' : Scope}

/-- A script does only what it may, whatever it is answered. -/
def Within (scope : Scope) : Chunk α → Prop
  | ends _ => True
  | calls context _ _ next => scope.calls context ∧ ∀ r, (next r).Within scope
  | sees _ next => ∀ x, (next x).Within scope
  | writes _ change next => scope.writes change ∧ next.Within scope
  | reaches _ next => scope.reaches ∧ ∀ i, (next i).Within scope

theorem Within.mono (hle : scope.Le scope') : ∀ {k : Chunk α}, k.Within scope → k.Within scope'
  | ends _, _ => trivial
  | calls .., h => ⟨hle.calls _ h.1, fun r => (h.2 r).mono hle⟩
  | sees .., h => fun x => Within.mono hle (h x)
  | writes .., h => ⟨hle.writes _ h.1, h.2.mono hle⟩
  | reaches .., h => ⟨hle.reaches h.1, fun i => (h.2 i).mono hle⟩

theorem Within.bind {f : α → Chunk β} (hf : ∀ a, (f a).Within scope) :
    ∀ {k : Chunk α}, k.Within scope → (k.bind f).Within scope
  | ends a, _ => hf a
  | calls .., h => ⟨h.1, fun r => (h.2 r).bind hf⟩
  | sees .., h => fun x => Within.bind hf (h x)
  | writes .., h => ⟨h.1, h.2.bind hf⟩
  | reaches .., h => ⟨h.1, fun i => (h.2 i).bind hf⟩

theorem within_all : ∀ k : Chunk α, k.Within .all
  | ends _ => trivial
  | calls _ _ _ next => ⟨trivial, fun r => within_all (next r)⟩
  | sees _ next => fun x => within_all (next x)
  | writes _ _ next => ⟨trivial, within_all next⟩
  | reaches _ next => ⟨trivial, fun i => within_all (next i)⟩

end Chunk

namespace Runtime

variable {scope scope' : Scope}

/-- All scripts keep to a scope. -/
def Keeps (host : Runtime) (scope : Scope) : Prop :=
  ∀ events memory script, (host events memory script).Within scope

/-- Every script keeps to what it is offered and uses no scene but the one it is given. -/
def KeepsOwn (host : Runtime) : Prop :=
  ∀ events memory script context, memory.globals.get? "scene" = some (.scene context) →
    (host events memory script).Within (.own context)

theorem Keeps.mono {host : Runtime} (h : host.Keeps scope) (hle : scope.Le scope') :
    host.Keeps scope' :=
  fun events memory script => (h events memory script).mono hle

theorem keeps_all (host : Runtime) : host.Keeps .all :=
  fun events memory script => (host events memory script).within_all

end Runtime

/-- A script is given the scene of its own context. -/
theorem Memory.given_scene (m : Memory) (context : Nat) (event : Text) (origin : Option Text) :
    (m.given context event origin).globals.get? "scene" = some (.scene context) := by
  simp only [given, Table.get?_put]
  rfl

end CardTalk.Host
