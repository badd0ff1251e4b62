/-
What commands write into a scene, and what an attempt that breaks off leaves behind.

Moving the middle of an object is done in two steps, across and then down, and each needs
half of a stored size.  A whole number may be too large for that, so an attempt can break
off after the first step.  It cannot where every height has a half: then an attempt that
breaks off leaves the scene exactly as it was.  No command makes a height that has no half,
so this lasts.
-/
import CardTalk.Proofs.Conduct.Engine

namespace CardTalk

/-! ### Heights -/

/-- Half the height of an object can be computed. -/
def Part.Measured (p : Part) : Prop := p.rect.height.half.isOk = true

instance (p : Part) : Decidable p.Measured := inferInstanceAs (Decidable (_ = true))

/-- The objects of an entity, or the object that it is. -/
def Entity.parts : Entity → List Part
  | .stack _ => []
  | .background b => b.parts
  | .card c => c.parts
  | .part p => [p]

/-- The objects of an entity are measured. -/
def Entity.Measured (x : Entity) : Prop := ∀ p ∈ x.parts, p.Measured

instance (x : Entity) : Decidable x.Measured := inferInstanceAs (Decidable (∀ p ∈ _, _))

/-- All objects are measured. -/
structure Scene.Measured (s : Scene) : Prop where
  backgrounds : ∀ b ∈ s.backgrounds, (Entity.background b).Measured
  cards : ∀ c ∈ s.cards, (Entity.card c).Measured

namespace Quantity

/-- Half of a number is a floating-point number. -/
theorem half_float {q r : Quantity} (h : q.half = .ok r) : ∃ x, r = .float x := by
  cases q with
  | float x => exact ⟨x / 2, (Except.ok.inj h).symm⟩
  | int n =>
      unfold half at h
      dsimp only at h
      split at h
      · exact nomatch h
      · exact ⟨_, (Except.ok.inj h).symm⟩

end Quantity

namespace Property

theorem lessHalf_ok {q : Quantity} (h : q.half.isOk = true) (x : Float) :
    ∃ r, lessHalf (.float x) q = .ok r := by
  cases hhalf : q.half with
  | error f =>
      rw [hhalf] at h
      exact nomatch h
  | ok r =>
      obtain ⟨y, rfl⟩ := Quantity.half_float hhalf
      refine ⟨.float (x - y), ?_⟩
      rw [lessHalf, hhalf]
      rfl

/-- A value that is two numbers is read as floating-point numbers. -/
theorem point?_floats {value : Text} {x y : Quantity} (h : point? value = some (x, y)) :
    ∃ a b, x = .float a ∧ y = .float b := by
  unfold point? at h
  split at h
  · rename_i t u _
    obtain ⟨a, -, hrest⟩ := Option.bind_eq_some_iff.mp h
    obtain ⟨b, -, hpair⟩ := Option.bind_eq_some_iff.mp hrest
    obtain ⟨rfl, rfl⟩ := Prod.mk.inj (Option.some.inj hpair)
    exact ⟨a, b, rfl, rfl⟩
  · exact nomatch h

/-- An edge or a size is written by reading one number: what goes for every number read goes for
what is written. -/
theorem write_number {value : Text} {f : Float → Rect × Option Fault}
    {written : Rect × Option Fault} {P : Rect × Option Fault → Prop}
    (h : (do return f (← Number.leading? value) : Option (Rect × Option Fault)) = some written)
    (hf : ∀ n, Number.leading? value = some n → P (f n)) : P written := by
  obtain ⟨n, hn, hresult⟩ := Option.bind_eq_some_iff.mp h
  rw [← Option.some.inj hresult]
  exact hf n hn

/-- What a write of a geometric property may come to: it succeeds and leaves the height or
makes it a floating-point number, or it breaks off and has not begun if the height has a
half. -/
def Geometry.Fair (r : Rect) (written : Rect × Option Fault) : Prop :=
  match written.2 with
  | none => written.1.height = r.height ∨ ∃ x, written.1.height = .float x
  | some _ => r.height.half.isOk = true → written.1 = r

theorem Geometry.write_fair {r : Rect} {g : Geometry} {value : Text}
    {written : Rect × Option Fault} (h : g.write r value = some written) :
    Fair r written := by
  cases g with
  | topLeft =>
      obtain ⟨⟨x, y⟩, -, hwritten⟩ := Option.bind_eq_some_iff.mp h
      rw [← Option.some.inj hwritten]
      exact Or.inl rfl
  | location =>
      obtain ⟨⟨x, y⟩, hpoint, hwritten⟩ := Option.bind_eq_some_iff.mp h
      obtain ⟨-, z, -, rfl⟩ := point?_floats hpoint
      rw [← Option.some.inj hwritten]
      cases hacross : lessHalf x r.width with
      | error f => exact fun _ => rfl
      | ok x' =>
          cases hdown : lessHalf (.float z) r.height with
          | ok y => exact .inl rfl
          | error f =>
              intro hhalf
              obtain ⟨y, hy⟩ := lessHalf_ok hhalf z
              rw [hy] at hdown
              exact nomatch hdown
  | left => exact write_number h fun n _ => Or.inl rfl
  | top => exact write_number h fun n _ => Or.inl rfl
  | width => exact write_number h fun n _ => Or.inl rfl
  | height => exact write_number h fun n _ => Or.inr ⟨n, rfl⟩
  | right =>
      refine write_number h fun n _ => ?_
      cases (Quantity.float n).minus r.width with
      | ok x => exact .inl rfl
      | error f => exact fun _ => rfl
  | bottom =>
      refine write_number h fun n _ => ?_
      cases (Quantity.float n).minus r.height with
      | ok y => exact .inl rfl
      | error f => exact fun _ => rfl

end Property

/-! ### Entities -/

namespace Entity

open Property

theorem measured_part {p : Part} : (part p).Measured ↔ p.Measured :=
  List.forall_mem_singleton

/-- Writing a text, a truth value or a number leaves places and objects alone. -/
theorem Measured.write {x : Entity} (h : x.Measured) (n : Attribute.Name) {a : Attribute}
    (hrect : ∀ r, a ≠ .rect r) (hparts : ∀ ps, a ≠ .parts ps) : (x.write n a).Measured := by
  cases x with
  | stack s => exact fun p hp => nomatch hp
  | background b =>
      have hkeeps : (b.write n a).parts = b.parts := by
        unfold Background.write
        split
        case h_5 ps => exact absurd rfl (hparts ps)
        all_goals rfl
      show ∀ p ∈ (b.write n a).parts, p.Measured
      rw [hkeeps]
      exact h
  | card c =>
      have hkeeps : (c.write n a).parts = c.parts := by
        unfold Card.write
        split
        case h_7 ps => exact absurd rfl (hparts ps)
        all_goals rfl
      show ∀ p ∈ (c.write n a).parts, p.Measured
      rw [hkeeps]
      exact h
  | part p =>
      have hkeeps : (p.write n a).rect = p.rect := by
        unfold Part.write
        split
        case h_3 r => exact absurd rfl (hrect r)
        all_goals rfl
      refine measured_part.mpr ?_
      show (p.write n a).rect.height.half.isOk = true
      rw [hkeeps]
      exact measured_part.mp h

/-- What an attempt to write a property may come to when all heights have halves: one that
breaks off has not begun. -/
def Fair (x : Entity) : Change → Prop
  | .made y => y.Measured
  | .failed y _ => y = x
  | .refused | .readOnly _ => True

theorem Measured.writeAttribute_fair {x : Entity} (h : x.Measured) (n : Attribute.Name)
    (value : Text) : x.Fair (writeAttribute x n value) := by
  unfold writeAttribute
  split
  · trivial
  · exact h.write n (fun r => nofun) fun ps => nofun
  · split
    · trivial
    · split
      · exact h.write n (fun r => nofun) fun ps => nofun
      · rfl
  · exact h.write n (fun r => nofun) fun ps => nofun

theorem Measured.setProperty_fair {x : Entity} (h : x.Measured) (name value : Text) :
    x.Fair (x.setProperty name value) := by
  unfold Entity.setProperty
  dsimp only
  split
  · trivial
  · split
    · rename_i g _
      split
      · rename_i p
        have hp : p.Measured := measured_part.mp h
        split
        · rename_i rect hwrite
          refine measured_part.mpr ?_
          rcases Geometry.write_fair hwrite with hheight | ⟨z, hheight⟩
          · show rect.height.half.isOk = true
            rw [hheight]
            exact hp
          · show rect.height.half.isOk = true
            rw [hheight]
            rfl
        · rename_i rect f hwrite
          have hrect : rect = p.rect := Geometry.write_fair hwrite hp
          rw [hrect]
          rfl
        · trivial
      · trivial
    · split
      · exact h.writeAttribute_fair ..
      · trivial

/-- What a command makes of a measured entity is measured. -/
theorem Measured.written {x y : Entity} (h : x.Measured) (hy : x.Written y) : y.Measured := by
  cases hy with
  | property hmade =>
      rename_i name value
      have hfair := h.setProperty_fair name value
      rw [hmade] at hfair
      exact hfair
  | content p content =>
      have hkeeps : (p.withContent content).rect = p.rect := by
        unfold Part.withContent
        split
        · rfl
        · rfl
      refine measured_part.mpr ?_
      show (p.withContent content).rect.height.half.isOk = true
      rw [hkeeps]
      exact measured_part.mp h
  | visible p visible =>
      have hp : p.Measured := measured_part.mp h
      exact measured_part.mpr hp
  | cardColor c color => exact h
  | cardName c name => exact h
  | backdropColor s color => exact fun p hp => nomatch hp
  | patternColor s color => exact fun p hp => nomatch hp

end Entity

/-! ### Scenes -/

/-- Two entities that may stand in the same place. -/
inductive Entity.SameSort : Entity → Entity → Prop
  | stack (s t : Stack) : SameSort (.stack s) (.stack t)
  | background (b c : Background) : SameSort (.background b) (.background c)
  | card (c d : Card) : SameSort (.card c) (.card d)
  | part (p q : Part) : SameSort (.part p) (.part q)

namespace Scene

variable {s : Scene} {place : Place} {x y : Entity}

theorem Measured.entity (h : s.Measured) (hx : s.entity? place = some x) : x.Measured := by
  cases place with
  | stack =>
      obtain rfl : .stack s.stack = x := Option.some.inj hx
      exact fun p hp => nomatch hp
  | background i =>
      obtain ⟨b, hb, rfl⟩ := Option.map_eq_some_iff.mp hx
      exact h.backgrounds b (List.mem_of_getElem? hb)
  | card i =>
      obtain ⟨c, hc, rfl⟩ := Option.map_eq_some_iff.mp hx
      exact h.cards c (List.mem_of_getElem? hc)
  | backgroundPart i k =>
      obtain ⟨b, hb, hpart⟩ := Option.bind_eq_some_iff.mp hx
      obtain ⟨p, hp, rfl⟩ := Option.map_eq_some_iff.mp hpart
      have hmeasured := h.backgrounds b (List.mem_of_getElem? hb)
      exact Entity.measured_part.mpr (hmeasured p (List.mem_of_getElem? hp))
  | cardPart i k =>
      obtain ⟨c, hc, hpart⟩ := Option.bind_eq_some_iff.mp hx
      obtain ⟨p, hp, rfl⟩ := Option.map_eq_some_iff.mp hpart
      have hmeasured := h.cards c (List.mem_of_getElem? hc)
      exact Entity.measured_part.mpr (hmeasured p (List.mem_of_getElem? hp))

theorem set_of_getElem? {α : Type} {l : List α} {i : Nat} {a : α} (h : l[i]? = some a) :
    l.set i a = l := by
  obtain ⟨hi, rfl⟩ := List.getElem?_eq_some_iff.mp h
  exact List.set_getElem_self hi

theorem modify_of_getElem? {α : Type} {l : List α} {i : Nat} {a : α} (h : l[i]? = some a)
    (f : α → α) : l.modify i f = l.set i (f a) := by
  have : Inhabited α := ⟨a⟩
  rw [List.modify_eq_set, h]
  rfl

/-- Writing back what is there changes nothing. -/
theorem replace_self (hx : s.entity? place = some x) : s.replace place x = s := by
  cases place with
  | stack =>
      obtain rfl : .stack s.stack = x := Option.some.inj hx
      rfl
  | background i =>
      obtain ⟨b, hb, rfl⟩ := Option.map_eq_some_iff.mp hx
      rw [Scene.replace, set_of_getElem? hb]
  | card i =>
      obtain ⟨c, hc, rfl⟩ := Option.map_eq_some_iff.mp hx
      rw [Scene.replace, set_of_getElem? hc]
  | backgroundPart i k =>
      obtain ⟨b, hb, hpart⟩ := Option.bind_eq_some_iff.mp hx
      obtain ⟨p, hp, rfl⟩ := Option.map_eq_some_iff.mp hpart
      rw [Scene.replace, modify_of_getElem? hb, set_of_getElem? hp, set_of_getElem? hb]
  | cardPart i k =>
      obtain ⟨c, hc, hpart⟩ := Option.bind_eq_some_iff.mp hx
      obtain ⟨p, hp, rfl⟩ := Option.map_eq_some_iff.mp hpart
      rw [Scene.replace, modify_of_getElem? hc, set_of_getElem? hp, set_of_getElem? hc]

/-- What takes the place of an entity of the same sort is found there. -/
theorem entity?_replace (hx : s.entity? place = some x) (h : x.SameSort y) :
    (s.replace place y).entity? place = some y := by
  cases place with
  | stack =>
      obtain rfl : .stack s.stack = x := Option.some.inj hx
      cases h
      rfl
  | background i =>
      obtain ⟨b, hb, rfl⟩ := Option.map_eq_some_iff.mp hx
      have hlt := (List.getElem?_eq_some_iff.mp hb).1
      cases h
      simp [replace, entity?, hlt]
  | card i =>
      obtain ⟨c, hc, rfl⟩ := Option.map_eq_some_iff.mp hx
      have hlt := (List.getElem?_eq_some_iff.mp hc).1
      cases h
      simp [replace, entity?, hlt]
  | backgroundPart i k =>
      obtain ⟨b, hb, hpart⟩ := Option.bind_eq_some_iff.mp hx
      obtain ⟨p, hp, rfl⟩ := Option.map_eq_some_iff.mp hpart
      have hlt := (List.getElem?_eq_some_iff.mp hp).1
      cases h
      simp [replace, entity?, hb, hlt]
  | cardPart i k =>
      obtain ⟨c, hc, hpart⟩ := Option.bind_eq_some_iff.mp hx
      obtain ⟨p, hp, rfl⟩ := Option.map_eq_some_iff.mp hpart
      have hlt := (List.getElem?_eq_some_iff.mp hp).1
      cases h
      simp [replace, entity?, hc, hlt]

theorem forall_mem_set {α : Type} {P : α → Prop} {l : List α} (h : ∀ a ∈ l, P a) {a : α}
    (ha : P a) (i : Nat) : ∀ b ∈ l.set i a, P b := by
  intro b hb
  rcases List.mem_or_eq_of_mem_set hb with hmem | rfl
  · exact h b hmem
  · exact ha

theorem Measured.replace (h : s.Measured) (hx : s.entity? place = some x) (hy : y.Measured) :
    (s.replace place y).Measured := by
  unfold Scene.replace
  split
  · exact ⟨h.backgrounds, h.cards⟩
  · exact ⟨forall_mem_set h.backgrounds hy _, h.cards⟩
  · exact ⟨h.backgrounds, forall_mem_set h.cards hy _⟩
  · rename_i i k p
    obtain ⟨b, hb, -⟩ := Option.bind_eq_some_iff.mp hx
    have hb' := h.backgrounds b (List.mem_of_getElem? hb)
    have hset : (Entity.background { b with parts := b.parts.set k p }).Measured :=
      forall_mem_set hb' (Entity.measured_part.mp hy) k
    refine ⟨?_, h.cards⟩
    rw [modify_of_getElem? hb]
    exact forall_mem_set h.backgrounds hset i
  · rename_i i k p
    obtain ⟨c, hc, -⟩ := Option.bind_eq_some_iff.mp hx
    have hc' := h.cards c (List.mem_of_getElem? hc)
    have hset : (Entity.card { c with parts := c.parts.set k p }).Measured :=
      forall_mem_set hc' (Entity.measured_part.mp hy) k
    refine ⟨h.backgrounds, ?_⟩
    rw [modify_of_getElem? hc]
    exact forall_mem_set h.cards hset i
  · exact h

theorem Measured.same {s' : Scene} (h : s.Measured) {position : Nat}
    (hcontents : s'.contents = (s.stack, s.backgrounds, s.cards, position)) : s'.Measured := by
  obtain ⟨-, hbackgrounds, hcards, -⟩ := of_contents hcontents
  refine ⟨?_, ?_⟩
  · rw [hbackgrounds]
    exact h.backgrounds
  · rw [hcards]
    exact h.cards

theorem Measured.moveTo (h : s.Measured) (i : Nat) (back : Bool) : (s.moveTo i back).Measured :=
  h.same (s.moveTo_contents i back)

/-- A change of the scene leaves all objects measured. -/
theorem Measured.change {s' : Scene} (h : s.Measured) (hchange : s.Change s') : s'.Measured := by
  cases hchange with
  | replace hx hy => exact h.replace hx ((h.entity hx).written hy)
  | add hadd =>
      obtain ⟨card, issued, hparts, -, -, rfl⟩ := addCard_eq hadd
      have hinsert : (s.insertCard card issued).Measured := by
        refine ⟨h.backgrounds, fun c hc => ?_⟩
        rcases List.mem_append.mp hc with hbefore | hafter
        · exact h.cards c (List.mem_of_mem_take hbefore)
        · rcases List.mem_cons.mp hafter with rfl | hlater
          · intro p hp
            have hnone : p ∈ c.parts := hp
            rw [hparts] at hnone
            exact nomatch hnone
          · exact h.cards c (List.mem_of_mem_drop hlater)
      exact hinsert.moveTo (s.current + 1) false
  | delete hdelete =>
      unfold Scene.deleteCard at hdelete
      split at hdelete
      · exact nomatch hdelete
      · split at hdelete
        · exact nomatch hdelete
        · obtain rfl := Option.some.inj (Except.ok.inj hdelete)
          exact ⟨h.backgrounds, fun c hc => h.cards c (List.mem_of_mem_eraseIdx hc)⟩

/-- An attempt to set a property that breaks off leaves the scene as it was. -/
theorem Measured.replace_failed {name value : Text} {f : Fault} (h : s.Measured)
    (hx : s.entity? place = some x) (hy : x.setProperty name value = .failed y f) :
    s.replace place y = s := by
  have hfair := (h.entity hx).setProperty_fair name value
  rw [hy] at hfair
  obtain rfl : y = x := hfair
  exact replace_self hx

end Scene

end CardTalk
