/-
Setting a property and reading it again.

An attempt to set a property comes to one of four things.  It succeeds: then what belongs to the
property has changed and nothing else, and reading it again shows what was given.  It is refused,
or breaks off before it has begun: then nothing has changed.  Or it breaks off halfway.  That
happens only where the middle of an object is to be moved and half of its height cannot be
computed, and leaves it moved across but not down.
-/
import CardTalk.Engine.Perform
import CardTalk.Proofs.Scene.Attribute
import CardTalk.Proofs.Scene.Geometry
import CardTalk.Host.Line.Runtime

namespace CardTalk

open Property

/-! ### Attributes -/

namespace Attribute

/-- How an attribute is shown after a value is given to it, by what it held before. -/
def ShownAs (held : Attribute) (given shown : Text) : Prop :=
  match held with
  | flag _ => shown = if Text.lower (Text.trim given) = "false" then "false" else "true"
  | number _ => ∃ x, Number.leading? given = some x ∧ shown = Number.text x
  | _ => shown = given

/-- The attributes that no property changes: what identifies or structures an entity. -/
def Name.lasting : List Attribute.Name := [.id, .script, .objects, .cardSize]

theorem Name.property_of_ofProperty? {property : Text} {n : Attribute.Name}
    (h : Name.ofProperty? property = some n) : n.property = property := by
  unfold Name.ofProperty? at h
  have hfound := List.find?_some h
  exact beq_iff_eq.mp hfound

/-- The attributes with a lasting or structured value cannot be written. -/
theorem Name.not_mem_of_writable {property : Text} {n : Attribute.Name}
    (h : Name.ofProperty? property = some n) (hwritable : ¬readOnly.contains property) :
    n ∉ Name.lasting ∧ n ∉ [Name.rect, .cardSize, .objects] := by
  have hlasting : ∀ m ∈ Name.lasting, readOnly.contains m.property := by decide
  have hstructured : ∀ m ∈ [Name.rect, .cardSize, .objects], readOnly.contains m.property := by
    decide
  rw [← Name.property_of_ofProperty? h] at hwritable
  exact ⟨fun hn => hwritable (hlasting n hn), fun hn => hwritable (hstructured n hn)⟩

end Attribute

theorem Property.ofBool_flagOf (given : Text) :
    Value.ofBool (flagOf given) =
      if Text.lower (Text.trim given) = "false" then "false" else "true" := by
  unfold flagOf Value.ofBool
  by_cases h : Text.lower (Text.trim given) = "false"
  · rw [if_pos h, h]
    rfl
  · rw [if_neg h, if_pos (bne_iff_ne.mpr h)]

/-- What is stored for a written number is shown as that number. -/
theorem Property.storedNumber_text {current q : Quantity} {x : Float}
    (h : storedNumber current x = .ok q) : q.text = .ok (Number.text x) := by
  cases current with
  | float _ =>
      obtain rfl := Except.ok.inj h
      rfl
  | int _ =>
      unfold storedNumber at h
      cases htruncate : Number.truncate x with
      | error f =>
          rw [htruncate] at h
          exact nomatch h
      | ok n =>
          rw [htruncate] at h
          obtain rfl := Except.ok.inj h
          split
          · rename_i hwhole
            have hx : Number.value? x = some (n : ℚ) := Number.value?_of_isWhole hwhole htruncate
            obtain ⟨y, hy, hvalue⟩ := Number.value?_ofInt hx
            show (Number.ofInt n >>= fun z => .ok (Number.text z)) = _
            rw [hy, Number.text_of_value? hx hvalue]
            rfl
          · rfl

/-! ### Entities -/

namespace Entity

/-- Between two entities a property has been set: nothing else has changed, and it is shown as
what was given. -/
inductive Sets (name given : Text) : Entity → Entity → Prop
  | geometry {p : Part} {r : Rect} {g : Geometry} {shown : Text}
      (hname : Geometry.ofName? (canonical name) = some g) (hleaves : g.Leaves p.rect r)
      (hread : (Entity.part { p with rect := r }).property? name = .ok (some shown))
      (hshows : g.Shows p.rect given shown) : Sets name given (.part p) (.part { p with rect := r })
  | attribute {x y : Entity} {n : Attribute.Name} {held : Attribute} {shown : Text}
      (hname : Geometry.ofName? (canonical name) = none)
      (hattribute : Attribute.Name.ofProperty? (canonical name) = some n)
      (hheld : x.read n = some held) (hothers : ∀ m, m ≠ n → y.read m = x.read m)
      (hread : y.property? name = .ok (some shown))
      (hshown : held.ShownAs given shown) : Sets name given x y

/-- What lasts of an entity whatever property is set. -/
structure Keeps (x y : Entity) : Prop where
  kind : y.kindName = x.kindName
  lasting : ∀ n ∈ Attribute.Name.lasting, y.read n = x.read n

/-- An object has been moved across to have its middle at a point, and could not be moved down. -/
inductive Halfway (name given : Text) (f : Fault) : Entity → Entity → Prop
  | moved {p : Part} {x y : Float} {across : Quantity}
      (hname : Geometry.ofName? (canonical name) = some .location)
      (hpoint : point? given = some (.float x, .float y))
      (hacross : lessHalf (.float x) p.rect.width = .ok across)
      (hdown : p.rect.height.half = .error f) :
      Halfway name given f (.part p) (.part { p with rect := { p.rect with x := across } })

/-- What an attempt to set a property may come to. -/
inductive Attempt (x : Entity) (name given : Text) : Change → Prop
  | made {y : Entity} (hsets : x.Sets name given y) (hkeeps : x.Keeps y) :
      Attempt x name given (.made y)
  | refused : Attempt x name given .refused
  | readOnly (property : Text) : Attempt x name given (.readOnly property)
  | failed (f : Fault) : Attempt x name given (.failed x f)
  | halfway {y : Entity} {f : Fault} (h : x.Halfway name given f y) :
      Attempt x name given (.failed y f)

variable {x y : Entity} {name given : Text}

theorem Halfway.kind {f : Fault} (h : x.Halfway name given f y) : y.kindName = x.kindName := by
  cases h
  rfl

theorem Keeps.place (p : Part) (r : Rect) : (part p).Keeps (.part { p with rect := r }) := by
  refine ⟨rfl, fun n hn => ?_⟩
  simp only [Attribute.Name.lasting, List.mem_cons, List.not_mem_nil, or_false] at hn
  rcases hn with rfl | rfl | rfl | rfl <;> rfl

theorem Keeps.write (x : Entity) {n : Attribute.Name} (hn : n ∉ Attribute.Name.lasting)
    (a : Attribute) : x.Keeps (x.write n a) := by
  refine ⟨x.kindName_write n a, fun m hm => x.read_write_of_ne ?_ a⟩
  rintro rfl
  exact hn hm

theorem canonical_ne_kind (hwritable : ¬readOnly.contains (canonical name)) :
    canonical name ≠ "kind" := by
  intro h
  exact hwritable (h ▸ by decide)

/-- A geometric property of an object is read off its place. -/
theorem property?_geometry {p : Part} {g : Geometry} {shown : Text}
    (hwritable : ¬readOnly.contains (canonical name))
    (hname : Geometry.ofName? (canonical name) = some g) (hread : g.read p.rect = .ok shown) :
    (part p).property? name = .ok (some shown) := by
  unfold property?
  simp only [if_neg (canonical_ne_kind hwritable), hname, hread]
  rfl

/-- Any other property is read off its attribute. -/
theorem property?_attribute {n : Attribute.Name} {a : Attribute} {shown : Text}
    (hwritable : ¬readOnly.contains (canonical name))
    (hname : Geometry.ofName? (canonical name) = none)
    (hattribute : Attribute.Name.ofProperty? (canonical name) = some n)
    (hread : x.read n = some a) (hshown : a.toText = .ok shown) :
    x.property? name = .ok (some shown) := by
  unfold property?
  simp only [if_neg (canonical_ne_kind hwritable), hname, hattribute, Option.bind_some, hread, hshown]
  rfl

theorem writeAttribute_attempt {n : Attribute.Name}
    (hwritable : ¬readOnly.contains (canonical name))
    (hname : Geometry.ofName? (canonical name) = none)
    (hattribute : Attribute.Name.ofProperty? (canonical name) = some n) :
    x.Attempt name given (writeAttribute x n given) := by
  obtain ⟨hlasting, hplain⟩ := Attribute.Name.not_mem_of_writable hattribute hwritable
  -- what is written in place of a value of the same sort is shown as it is written
  have hmade : ∀ {held a : Attribute} {shown : Text}, x.read n = some held →
      Attribute.Replaces held a → a.toText = .ok shown → held.ShownAs given shown →
      x.Attempt name given (.made (x.write n a)) := by
    intro held a shown hheld hreplaces htext hshown
    have hread : (x.write n a).read n = some a := read_write hheld hreplaces
    refine .made (.attribute hname hattribute hheld ?_ ?_ hshown) (.write x hlasting a)
    · exact fun m hm => x.read_write_of_ne hm a
    · exact property?_attribute hwritable hname hattribute hread htext
  unfold writeAttribute
  split
  · exact .refused
  · rename_i b hheld
    exact hmade hheld (.flag b _) rfl (ofBool_flagOf given)
  · rename_i q hheld
    split
    · exact .refused
    · rename_i z hnumber
      split
      · rename_i r hstored
        exact hmade hheld (.number q r) (storedNumber_text hstored) ⟨z, hnumber, rfl⟩
      · exact .failed _
  · rename_i held hflag hnumber hheld
    have hsort := read_plain hheld hplain
    cases held with
    | text t => exact hmade hheld (.text t given) rfl rfl
    | unset => exact hmade hheld (.unset given) rfl rfl
    | flag b => exact absurd rfl (hflag b)
    | number q => exact absurd rfl (hnumber q)
    | rect | size | parts => exact hsort.elim

theorem setProperty_attempt (x : Entity) (name value : Text) :
    x.Attempt name (Color.expandTriple value) (x.setProperty name value) := by
  unfold setProperty
  dsimp only
  split
  · exact .readOnly _
  · rename_i hwritable
    split
    · rename_i g hname
      split
      · rename_i p
        split
        · rename_i r hwrite
          cases Geometry.write_written hwrite with
          | made hleaves hread hshows =>
              refine .made (.geometry hname hleaves ?_ hshows) (.place p r)
              exact property?_geometry hwritable hname hread
        · rename_i r f hwrite
          cases Geometry.write_written hwrite with
          | failed => exact .failed f
          | halfway hg hpoint hacross hdown =>
              subst hg
              exact .halfway (.moved hname hpoint hacross hdown)
        · exact .refused
      · exact .refused
    · rename_i hname
      split
      · rename_i n hattribute
        exact writeAttribute_attempt hwritable hname hattribute
      · exact .refused

end Entity

/-! ### Kinds -/

/-- The words for the kinds of object are no others. -/
theorem Part.Kind.name_ne (k : Part.Kind) :
    k.name ≠ "stack" ∧ k.name ≠ "background" ∧ k.name ≠ "card" := by
  cases k <;> decide

theorem Entity.sameSort_of_kindName {x y : Entity} (h : y.kindName = x.kindName) :
    x.SameSort y := by
  cases x <;> cases y
  case stack.stack => exact .stack _ _
  case background.background => exact .background _ _
  case card.card => exact .card _ _
  case part.part => exact .part _ _
  case part.stack p _ => exact absurd h.symm p.kind.name_ne.1
  case part.background p _ => exact absurd h.symm p.kind.name_ne.2.1
  case part.card p _ => exact absurd h.symm p.kind.name_ne.2.2
  case stack.part q => exact absurd h q.kind.name_ne.1
  case background.part q => exact absurd h q.kind.name_ne.2.1
  case card.part q => exact absurd h q.kind.name_ne.2.2
  all_goals exact nomatch h

theorem Scene.entity?_replace_of_kindName {s : Scene} {place : Place} {x y : Entity}
    (hx : s.entity? place = some x) (hkind : y.kindName = x.kindName) :
    (s.replace place y).entity? place = some y :=
  Scene.entity?_replace hx (Entity.sameSort_of_kindName hkind)

namespace Handler

/-- **Setting a property changes what belongs to it and nothing else, or nothing at all.**  Where
it succeeds, the property is then read as what was given; where it is refused, nothing has
changed; and where it breaks off, nothing has changed either, unless an object with half of its
height out of reach has been moved across to have its middle at a point. -/
theorem setProperty_all_or_nothing (s : Engine) {place : Place} {x : Entity}
    (hx : s.scene.entity? place = some x) (name value : Text) :
    let given := Color.expandTriple value
    let ended := (setProperty place x name value s).complete
    (ended.1 = .ok true → ∃ y, ended.2.scene = s.scene.replace place y ∧
      ended.2.scene.entity? place = some y ∧ x.Sets name given y ∧ x.Keeps y) ∧
    (ended.1 = .ok false → ended.2.scene = s.scene) ∧
    ∀ f, ended.1 = .error f → ended.2.scene = s.scene ∨
      ∃ y, ended.2.scene = s.scene.replace place y ∧
        ended.2.scene.entity? place = some y ∧ x.Halfway name given f y := by
  intro given ended
  have hattempt : x.Attempt name given (x.setProperty name value) :=
    x.setProperty_attempt name value
  have hended : ended = (setProperty place x name value s).complete := rfl
  unfold setProperty at hended
  revert hended hattempt
  cases x.setProperty name value with
  | made y =>
      intro hattempt hended
      rw [hended]
      cases hattempt with
      | made hsets hkeeps =>
          have hfound := Scene.entity?_replace_of_kindName hx hkeeps.kind
          exact ⟨fun _ => ⟨y, rfl, hfound, hsets, hkeeps⟩, nofun, nofun⟩
  | refused =>
      intro _ hended
      rw [hended]
      exact ⟨nofun, fun _ => rfl, nofun⟩
  | readOnly property =>
      intro _ hended
      rw [hended]
      exact ⟨nofun, fun _ => rfl, nofun⟩
  | failed y g =>
      intro hattempt hended
      rw [hended]
      refine ⟨nofun, nofun, fun f hf => ?_⟩
      obtain rfl : g = f := Except.error.inj hf
      cases hattempt with
      | failed => exact .inl (Scene.replace_self hx)
      | halfway h => exact .inr ⟨y, rfl, Scene.entity?_replace_of_kindName hx h.kind, h⟩

/-- An object whose height is a whole number too large to be halved. -/
def tower : Part :=
  { id := "f", name := "Tower", rect := ⟨10, 20, 100, .int (10 ^ 310)⟩, visible := true
    script := [], layer := "card", rotation := 0
    body := .field "x" [] [] [] 16 true false }

/-- A silent engine on a card with the tower. -/
def towering : Engine :=
  .new (.assemble (.usual "s") [] [{ Card.usual "a" "A" with parts := [tower] }] 0 0)
    { hostMarker := none, repeatLimit := .null, ticksPerSecond := .null
      serializeEvents := .ok true, idleInterval := .ok .null, isServed := .ok false }
    { console := none, replies := [], failure := fun _ => none }
    (.still .bare)

/-- What is shown of a property of the tower. -/
def shownOf (s : Engine) (name : Text) : Option (Except Fault (Option Text)) :=
  (s.scene.entity? (.cardPart 0 0)).map fun x => x.property? name

/-- The right edge of the tower can be moved, and is where it was put. -/
theorem setProperty_all_or_nothing_right :
    let ended := (setProperty (.cardPart 0 0) (.part tower) "the Right" "250.5px" towering).complete
    towering.scene.entity? (.cardPart 0 0) = some (.part tower) ∧ ended.1 = .ok true ∧
      (∃ y, ended.2.scene = towering.scene.replace (.cardPart 0 0) y ∧
        ended.2.scene.entity? (.cardPart 0 0) = some y ∧
        (Entity.part tower).Sets "the Right" "250.5px" y ∧ (Entity.part tower).Keeps y) ∧
      shownOf ended.2 "right" = some (.ok (some "250.5")) ∧
      shownOf ended.2 "left" = some (.ok (some "150.5")) := by
  intro ended
  have htower : towering.scene.entity? (.cardPart 0 0) = some (.part tower) := rfl
  have hended : ended.1 = .ok true := by decide +kernel
  have hset := (setProperty_all_or_nothing towering htower "the Right" "250.5px").1 hended
  have hgiven : Color.expandTriple "250.5px" = "250.5px" := by decide
  rw [hgiven] at hset
  exact ⟨htower, hended, hset, by decide +kernel, by decide +kernel⟩

/-- The middle of the tower cannot: it is moved across and the attempt breaks off. -/
theorem setProperty_halfway :
    let ended := (setProperty (.cardPart 0 0) (.part tower) "loc" "500,500" towering).complete
    towering.scene.entity? (.cardPart 0 0) = some (.part tower) ∧
      ended.1 = .error .quotientTooLarge ∧
      shownOf towering "left" = some (.ok (some "10")) ∧
      shownOf ended.2 "left" = some (.ok (some "450")) := by
  refine ⟨rfl, ?_, ?_, ?_⟩ <;> decide +kernel

end Handler

end CardTalk
