/-
Attributes that are written and read.

Writing an attribute changes what is read of that one and of no other, and leaves an entity what
it is.  Reading it again gives what has been written, if the entity has the attribute and it
holds something of the same sort.  All attributes but a place, a size and a list of objects hold
plain values.
-/
import CardTalk.Scene.Attribute

namespace CardTalk

/-- An attribute may hold a value in place of another: each of the same sort, and a text where
nothing is set. -/
inductive Attribute.Replaces : Attribute → Attribute → Prop
  | text (t u : Text) : Replaces (.text t) (.text u)
  | unset (u : Text) : Replaces .unset (.text u)
  | flag (b c : Bool) : Replaces (.flag b) (.flag c)
  | number (q r : Quantity) : Replaces (.number q) (.number r)

/-- A value that scripts can write: a text, a truth value or a number. -/
def Attribute.Plain : Attribute → Prop
  | text _ | flag _ | number _ | unset => True
  | rect _ | size _ | parts _ => False

open Attribute (Replaces)

section

variable {n m : Attribute.Name} {held a : Attribute}

namespace Part.Body

theorem kind_write (b : Part.Body) (n : Attribute.Name) (a : Attribute) :
    (b.write n a).kind = b.kind := by
  unfold write
  split <;> rfl

theorem read_write_of_ne (b : Part.Body) (h : m ≠ n) (a : Attribute) :
    (b.write n a).read m = b.read m := by
  unfold write
  split <;> first | rfl | (cases m <;> first | rfl | exact absurd rfl h)

theorem read_write {b : Part.Body} (hheld : b.read n = some held) (h : Replaces held a) :
    (b.write n a).read n = some a := by
  unfold read at hheld
  split at hheld <;> cases hheld <;> cases h <;> rfl

theorem read_plain {b : Part.Body} (hheld : b.read n = some held) : held.Plain := by
  unfold read at hheld
  split at hheld <;> cases hheld <;> trivial

end Part.Body

namespace Part

theorem kind_write (p : Part) (n : Attribute.Name) (a : Attribute) :
    (p.write n a).kind = p.kind := by
  unfold write
  split <;> first | rfl | exact p.body.kind_write _ _

theorem read_write_of_ne (p : Part) (h : m ≠ n) (a : Attribute) :
    (p.write n a).read m = p.read m := by
  unfold write
  split <;> cases m <;>
    first | rfl | exact absurd rfl h | exact p.body.read_write_of_ne h _

theorem read_write {p : Part} (hheld : p.read n = some held) (h : Replaces held a) :
    (p.write n a).read n = some a := by
  cases n <;> first | (cases hheld; cases h <;> rfl) | exact Body.read_write hheld h

theorem read_plain {p : Part} (hheld : p.read n = some held) (hn : n ≠ .rect) : held.Plain := by
  cases n <;> first | exact absurd rfl hn | (cases hheld; trivial) | exact Body.read_plain hheld

/-- The content of a field is read as an attribute. -/
theorem read_content {p : Part} {t : Text} (h : p.content? = some t) :
    p.read .content = some (.text t) := by
  obtain ⟨id, name, rect, visible, script, layer, rotation, body⟩ := p
  cases body with
  | field content =>
      obtain rfl : content = t := Option.some.inj h
      rfl
  | button | image | audio | embed | emoji => exact nomatch h

/-- It is written as one, too. -/
theorem write_content {p : Part} {old : Text} (h : p.content? = some old) (t : Text) :
    p.write .content (.text t) = p.withContent t := by
  obtain ⟨id, name, rect, visible, script, layer, rotation, body⟩ := p
  cases body with
  | field => rfl
  | button | image | audio | embed | emoji => exact nomatch h

end Part

theorem Background.read_write_of_ne (b : Background) (h : m ≠ n) (a : Attribute) :
    (b.write n a).read m = b.read m := by
  unfold write
  split <;> first | rfl | (cases m <;> first | rfl | exact absurd rfl h)

theorem Background.read_write {b : Background} (hheld : b.read n = some held)
    (h : Replaces held a) : (b.write n a).read n = some a := by
  unfold read at hheld
  split at hheld <;> cases hheld <;> cases h <;> rfl

theorem Card.read_write_of_ne (c : Card) (h : m ≠ n) (a : Attribute) :
    (c.write n a).read m = c.read m := by
  unfold write
  split <;> first | rfl | (cases m <;> first | rfl | exact absurd rfl h)

theorem Card.read_write {c : Card} (hheld : c.read n = some held) (h : Replaces held a) :
    (c.write n a).read n = some a := by
  unfold read at hheld
  split at hheld
  case h_5 =>
      split at hheld <;> cases hheld <;> cases h <;> rfl
  all_goals cases hheld <;> cases h <;> rfl

theorem Stack.read_write_of_ne (s : Stack) (h : m ≠ n) (a : Attribute) :
    (s.write n a).read m = s.read m := by
  unfold write
  split <;> first | rfl | (cases m <;> first | rfl | exact absurd rfl h)

theorem Stack.read_write {s : Stack} (hheld : s.read n = some held) (h : Replaces held a) :
    (s.write n a).read n = some a := by
  unfold read at hheld
  split at hheld <;> cases hheld <;> cases h <;> rfl

namespace Entity

theorem kindName_write (x : Entity) (n : Attribute.Name) (a : Attribute) :
    (x.write n a).kindName = x.kindName := by
  cases x with
  | stack | background | card => rfl
  | part p => exact congrArg Part.Kind.name (p.kind_write n a)

/-- Writing an attribute changes no other. -/
theorem read_write_of_ne (x : Entity) (h : m ≠ n) (a : Attribute) :
    (x.write n a).read m = x.read m := by
  cases x with
  | stack s => exact s.read_write_of_ne h a
  | background b => exact b.read_write_of_ne h a
  | card c => exact c.read_write_of_ne h a
  | part p => exact p.read_write_of_ne h a

/-- What is written into an attribute is read of it again. -/
theorem read_write {x : Entity} (hheld : x.read n = some held) (h : Replaces held a) :
    (x.write n a).read n = some a := by
  cases x with
  | stack s => exact Stack.read_write hheld h
  | background b => exact Background.read_write hheld h
  | card c => exact Card.read_write hheld h
  | part p => exact Part.read_write hheld h

/-- Every attribute but the place, the size of the cards and the objects holds a plain value. -/
theorem read_plain {x : Entity} (hheld : x.read n = some held)
    (hn : n ∉ [Attribute.Name.rect, .cardSize, .objects]) : held.Plain := by
  simp only [List.mem_cons, List.not_mem_nil, or_false, not_or] at hn
  obtain ⟨hrect, hsize, hobjects⟩ := hn
  cases x with
  | part p => exact Part.read_plain hheld hrect
  | stack s =>
      change s.read n = some held at hheld
      unfold Stack.read at hheld
      split at hheld <;> cases hheld <;> trivial
  | background b =>
      change b.read n = some held at hheld
      unfold Background.read at hheld
      split at hheld <;> cases hheld <;> trivial
  | card c =>
      change c.read n = some held at hheld
      unfold Card.read at hheld
      split at hheld
      case h_5 => split at hheld <;> cases hheld <;> trivial
      all_goals cases hheld <;> trivial

end Entity

end

end CardTalk
