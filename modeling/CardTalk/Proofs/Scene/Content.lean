/-
What is in a field, and what a scene is without it.

A text put into a field changes that field and nothing else (`writing`), and can be read where
it was put (`textAt?_writing`).  Whatever else a scene is, its outline is: the same scene with
every field empty and no effects to show.  Names, identifiers, kinds and scripts are in it, so
that everything scripts look for is found in the outline where it is found in the scene
(`findObject_outline`), and what has been put into fields never decides what a name means.
-/
import CardTalk.Engine.Navigation
import CardTalk.Proofs.Scene.Near
import CardTalk.Proofs.Scene.Writing
import CardTalk.Scene.Target

namespace CardTalk

/-! ### Fields -/

namespace Part

variable {p : Part} {t : Text}

@[simp] theorem withContent_id (p : Part) (t : Text) : (p.withContent t).id = p.id := by
  unfold withContent
  split <;> rfl

@[simp] theorem withContent_name (p : Part) (t : Text) : (p.withContent t).name = p.name := by
  unfold withContent
  split <;> rfl

@[simp] theorem withContent_script (p : Part) (t : Text) :
    (p.withContent t).script = p.script := by
  unfold withContent
  split <;> rfl

@[simp] theorem withContent_kind (p : Part) (t : Text) : (p.withContent t).kind = p.kind := by
  unfold withContent
  split
  · rename_i hbody
    rw [kind, kind, hbody]
    rfl
  · rfl

@[simp] theorem withContent_withContent (p : Part) (t u : Text) :
    (p.withContent t).withContent u = p.withContent u := by
  obtain ⟨id, name, rect, visible, script, layer, rotation, body⟩ := p
  cases body <;> rfl

/-- A field has a content. -/
theorem exists_content (h : p.kind = .field) : ∃ t, p.content? = some t := by
  obtain ⟨id, name, rect, visible, script, layer, rotation, body⟩ := p
  cases body <;> first | exact ⟨_, rfl⟩ | exact nomatch h

theorem kind_of_content (h : p.content? = some t) : p.kind = .field := by
  obtain ⟨id, name, rect, visible, script, layer, rotation, body⟩ := p
  cases body <;> first | rfl | exact nomatch h

theorem content?_withContent (h : p.kind = .field) (t : Text) :
    (p.withContent t).content? = some t := by
  obtain ⟨id, name, rect, visible, script, layer, rotation, body⟩ := p
  cases body <;> first | rfl | exact nomatch h

theorem withContent_self (h : p.content? = some t) : p.withContent t = p := by
  obtain ⟨id, name, rect, visible, script, layer, rotation, body⟩ := p
  cases body with
  | field content =>
      obtain rfl : content = t := Option.some.inj h
      rfl
  | button | image | audio | embed | emoji => exact nomatch h

@[simp] theorem isNamed_withContent (p : Part) (t n : Text) :
    (p.withContent t).isNamed n = p.isNamed n := by
  rw [isNamed, isNamed, withContent_id, withContent_name]

@[simp] theorem answersTo_withContent (p : Part) (t n : Text) :
    (p.withContent t).answersTo n = p.answersTo n := by
  rw [answersTo, answersTo, withContent_id, withContent_name]

end Part

/-! ### Writing into a field -/

namespace Scene

variable {s : Scene} {place : Place} {p q : Part} {t : Text}

/-- What is put in last counts. -/
theorem replace_replace (s : Scene) (place : Place) (p q : Part) :
    (s.replace place (.part p)).replace place (.part q) = s.replace place (.part q) := by
  cases place with
  | stack | background i | card i => rfl
  | backgroundPart i k =>
      simp only [replace, List.modify_modify_eq, Function.comp_def, List.set_set]
  | cardPart i k => simp only [replace, List.modify_modify_eq, Function.comp_def, List.set_set]

/-- The text in the field at a place. -/
def textAt? (s : Scene) (place : Place) : Option Text :=
  match s.entity? place with
  | some (.part p) => p.content?
  | _ => none

/-- The scene with a text put into the field at a place. -/
def writing (s : Scene) (place : Place) (t : Text) : Scene :=
  match s.entity? place with
  | some (.part p) => s.replace place (.part (p.withContent t))
  | _ => s

theorem textAt?_part (hp : s.entity? place = some (.part p)) : s.textAt? place = p.content? := by
  rw [textAt?, hp]

theorem writing_part (hp : s.entity? place = some (.part p)) (t : Text) :
    s.writing place t = s.replace place (.part (p.withContent t)) := by
  rw [writing, hp]

theorem exists_field (h : s.textAt? place = some t) :
    ∃ p, s.entity? place = some (.part p) ∧ p.content? = some t := by
  unfold textAt? at h
  split at h
  · rename_i p hp
    exact ⟨p, hp, h⟩
  · exact nomatch h

/-- What has been put in can be read. -/
theorem textAt?_writing {old : Text} (h : s.textAt? place = some old) (t : Text) :
    (s.writing place t).textAt? place = some t := by
  obtain ⟨p, hp, hcontent⟩ := exists_field h
  rw [writing_part hp, textAt?_part (entity?_replace hp (.part _ _))]
  exact Part.content?_withContent (Part.kind_of_content hcontent) t

theorem writing_writing {old : Text} (h : s.textAt? place = some old) (t u : Text) :
    (s.writing place t).writing place u = s.writing place u := by
  obtain ⟨p, hp, -⟩ := exists_field h
  rw [writing_part hp, writing_part (entity?_replace hp (.part _ _)), replace_replace,
    Part.withContent_withContent, writing_part hp]

/-- Putting in what is there changes nothing. -/
theorem writing_self (h : s.textAt? place = some t) : s.writing place t = s := by
  obtain ⟨p, hp, hcontent⟩ := exists_field h
  rw [writing_part hp, Part.withContent_self hcontent, replace_self hp]

theorem entity?_takeEffects (s : Scene) (place : Place) :
    s.takeEffects.2.entity? place = s.entity? place := by
  cases place <;> rfl

theorem textAt?_takeEffects (s : Scene) (place : Place) :
    s.takeEffects.2.textAt? place = s.textAt? place := by
  rw [textAt?, entity?_takeEffects, textAt?]

theorem writing_takeEffects (s : Scene) (place : Place) (t : Text) :
    s.takeEffects.2.writing place t = (s.writing place t).takeEffects.2 := by
  unfold writing
  rw [entity?_takeEffects]
  split
  · cases place <;> rfl
  · rfl

end Scene

/-! ### Outlines -/

/-- The card with every field empty. -/
def Card.outline (c : Card) : Card := { c with parts := c.parts.map (·.withContent []) }

/-- The background with every field empty. -/
def Background.outline (b : Background) : Background :=
  { b with parts := b.parts.map (·.withContent []) }

/-- The entity with every field empty. -/
def Entity.outline : Entity → Entity
  | part p => part (p.withContent [])
  | card c => card c.outline
  | background b => background b.outline
  | stack s => stack s

@[simp] theorem Entity.outline_script (x : Entity) : x.outline.script = x.script := by
  cases x with
  | part p => exact p.withContent_script []
  | stack | background | card => rfl

namespace Scene

/-- The scene with every field empty and no effects to show. -/
def outline (s : Scene) : Scene :=
  { s with
    cards := s.cards.map Card.outline
    backgrounds := s.backgrounds.map Background.outline
    transition := none
    animations := [] }

variable {s s' : Scene} {place : Place} {p q : Part} {t : Text}

theorem outline_takeEffects (s : Scene) : s.takeEffects.2.outline = s.outline := rfl

theorem map_set_of_getElem? {α β : Type} {f : α → β} {l : List α} {i : Nat} {a b : α}
    (ha : l[i]? = some a) (hb : f b = f a) : (l.set i b).map f = l.map f := by
  have hmap : (l.map f)[i]? = some (f a) := by rw [List.getElem?_map, ha, Option.map_some]
  rw [List.map_set, hb, set_of_getElem? hmap]

theorem outline_replace (hp : s.entity? place = some (.part p))
    (hq : q.withContent [] = p.withContent []) :
    (s.replace place (.part q)).outline = s.outline := by
  cases place with
  | stack => exact nomatch hp
  | background i => simp [entity?] at hp
  | card i => simp [entity?] at hp
  | backgroundPart i k =>
      obtain ⟨b, hb, hpart⟩ := Option.bind_eq_some_iff.mp hp
      obtain ⟨p', hk, hp'⟩ := Option.map_eq_some_iff.mp hpart
      obtain rfl := Entity.part.inj hp'
      have hbackground : Background.outline { b with parts := b.parts.set k q } = b.outline := by
        rw [Background.outline, map_set_of_getElem? hk hq]
        rfl
      rw [replace, modify_of_getElem? hb, outline, map_set_of_getElem? hb hbackground]
      rfl
  | cardPart i k =>
      obtain ⟨c, hc, hpart⟩ := Option.bind_eq_some_iff.mp hp
      obtain ⟨p', hk, hp'⟩ := Option.map_eq_some_iff.mp hpart
      obtain rfl := Entity.part.inj hp'
      have hcard : Card.outline { c with parts := c.parts.set k q } = c.outline := by
        rw [Card.outline, map_set_of_getElem? hk hq]
        rfl
      rw [replace, modify_of_getElem? hc, outline, map_set_of_getElem? hc hcard]
      rfl

/-- Writing into a field leaves the outline. -/
theorem outline_writing (s : Scene) (place : Place) (t : Text) :
    (s.writing place t).outline = s.outline := by
  unfold writing
  split
  · rename_i p hp
    exact outline_replace hp (Part.withContent_withContent ..)
  · rfl

/-- The outline shows whether there is a current card. -/
theorem hasCurrent_of_outline (h : s'.outline = s.outline) (hcurrent : s.HasCurrent) :
    s'.HasCurrent := by
  have houtline : ∀ s : Scene, s.outline.HasCurrent ↔ s.HasCurrent := fun s => by
    rw [HasCurrent, HasCurrent, outline, List.length_map]
  rwa [← houtline, h, houtline]

/-! ### What is found in an outline -/

theorem entity?_outline (s : Scene) (place : Place) :
    s.outline.entity? place = (s.entity? place).map Entity.outline := by
  cases place with
  | stack => rfl
  | background i => simp [entity?, outline, Function.comp_def, Entity.outline]
  | card i => simp [entity?, outline, Function.comp_def, Entity.outline]
  | backgroundPart i k =>
      cases hb : s.backgrounds[i]? with
      | none => simp [entity?, outline, hb]
      | some b =>
          simp [entity?, outline, hb, Background.outline, Function.comp_def, Entity.outline]
  | cardPart i k =>
      cases hc : s.cards[i]? with
      | none => simp [entity?, outline, hc]
      | some c => simp [entity?, outline, hc, Card.outline, Function.comp_def, Entity.outline]

/-- An object where it is, empty if it is a field. -/
def emptied (r : Place × Part) : Place × Part := (r.1, r.2.withContent [])

theorem mapIdx_emptied (place : Nat → Place) (parts : List Part) :
    (parts.map (·.withContent [])).mapIdx (fun k p => (place k, p)) =
      (parts.mapIdx fun k p => (place k, p)).map emptied := by
  refine List.ext_getElem? fun k => ?_
  simp only [List.getElem?_mapIdx, List.getElem?_map, Option.map_map]
  rfl

theorem placed_outline_card (c : Card) (i : Nat) : c.outline.placed i = (c.placed i).map emptied :=
  mapIdx_emptied ..

theorem placed_outline_background (b : Background) (i : Nat) :
    b.outline.placed i = (b.placed i).map emptied := mapIdx_emptied ..

theorem backgroundOf_outline (s : Scene) (c : Card) :
    s.outline.backgroundOf c.outline = (s.backgroundOf c).map fun r => (r.1, r.2.outline) := by
  have hindex : s.outline.backgroundIndex? c.outline.backgroundId =
      s.backgroundIndex? c.backgroundId := List.findIdx?_map ..
  simp only [backgroundOf, hindex, bind, pure]
  cases s.backgroundIndex? c.backgroundId with
  | none => rfl
  | some i =>
      have hget : s.outline.backgrounds[i]? = s.backgrounds[i]?.map Background.outline :=
        List.getElem?_map ..
      simp only [Option.bind_some, hget]
      cases s.backgrounds[i]? <;> rfl

theorem currentCard_outline (s : Scene) :
    s.outline.currentCard = s.currentCard.map Card.outline := by
  have hget : s.outline.cards[s.current]? = s.cards[s.current]?.map Card.outline :=
    List.getElem?_map ..
  show s.outline.cardAt s.current = (s.cardAt s.current).map Card.outline
  rw [cardAt, cardAt, hget]
  cases s.cards[s.current]? <;> rfl

theorem near_outline (s : Scene) (c : Card) :
    s.outline.near c.outline = (s.near c).map emptied := by
  rw [near, near, backgroundOf_outline, placed_outline_card, List.map_append]
  cases s.backgroundOf c with
  | none => rfl
  | some r =>
      simp only [Option.map_some, Option.elim_some, placed_outline_background]
      rfl

theorem nearest_outline (s : Scene) : s.outline.nearest = s.nearest.map (List.map emptied) := by
  rw [nearest_eq, nearest_eq, currentCard_outline]
  cases s.currentCard with
  | error f => rfl
  | ok c => exact congrArg Except.ok (s.near_outline c)

/-- What does not look at contents finds the same object. -/
theorem find?_emptied {f : Part → Bool} (hf : ∀ p : Part, f (p.withContent []) = f p)
    (l : List (Place × Part)) :
    ((l.map emptied).find? fun r => f r.2).map Prod.fst =
      (l.find? fun r => f r.2).map Prod.fst := by
  have hcomp : (fun r : Place × Part => f r.2) ∘ emptied = fun r => f r.2 :=
    funext fun r => hf r.2
  rw [List.find?_map, hcomp, Option.map_map]
  rfl

theorem findByName_outline (s : Scene) (name : Text) (kind : Option Part.Kind) :
    s.outline.findByName name kind = s.findByName name kind := by
  simp only [findByName, nearest_outline, bind, pure]
  cases s.nearest with
  | error f => rfl
  | ok parts =>
      refine congrArg Except.ok (find?_emptied (f := fun p =>
        kind.all (· == p.kind) && p.isNamed name) (fun p => ?_) parts)
      rw [Part.withContent_kind, Part.isNamed_withContent]

/-- **Objects are found in the outline where they are found in the scene.** -/
theorem findObject_outline (s : Scene) (name : Text) (kind : Option Part.Kind)
    (layer : Option Layer) :
    s.outline.findObject name kind layer = s.findObject name kind layer := by
  have hfind : ∀ parts, findObject.find name kind (parts.map emptied) =
      findObject.find name kind parts := fun parts =>
    find?_emptied (f := fun p => kind.all (· == p.kind) && p.answersTo name)
      (fun p => by rw [Part.withContent_kind, Part.answersTo_withContent]) parts
  unfold findObject
  cases layer with
  | none => exact s.findByName_outline name kind
  | some layer =>
      cases layer with
      | card =>
          simp only [currentCard_outline, bind, pure]
          cases s.currentCard with
          | error f => rfl
          | ok c =>
              rw [show s.outline.current = s.current from rfl]
              simp only [Except.map, Except.bind, placed_outline_card, hfind]
      | background =>
          simp only [currentBackground, currentCard_outline, bind, pure]
          cases s.currentCard with
          | error f => rfl
          | ok c =>
              simp only [Except.map, Except.bind, Except.pure, backgroundOf_outline]
              cases s.backgroundOf c with
              | none => rfl
              | some r => simp only [Option.map_some, placed_outline_background, hfind]

theorem findObjectOrHeld_outline (s : Scene) (v : Variables) (name : Text)
    (kind : Option Part.Kind) (layer : Option Layer) (bare : Bool) :
    s.outline.findObjectOrHeld v name kind layer bare =
      s.findObjectOrHeld v name kind layer bare := by
  simp only [findObjectOrHeld, findObject_outline]

end Scene

end CardTalk
