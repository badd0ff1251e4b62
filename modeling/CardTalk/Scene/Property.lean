/-
Properties: what scripts read and write of an entity.

A property name is taken without case, blanks, dashes and underscores, and a few names
stand for others.  Most properties are attributes.  The edges, corners and the middle of
an object are computed from its place, and writing one of them moves or resizes the
object.  What identifies or structures an entity can be read only.
-/
import CardTalk.Scene.Attribute
import CardTalk.Color

namespace CardTalk

namespace Property

/-- Property names that stand for others. -/
def aliases : Table Text := [
  ("x", "left"), ("y", "top"), ("location", "loc"), ("text", "content"),
  ("bgcolor", "backgroundcolor"), ("type", "kind")]

/-- The property name that is meant: `the Fill-Color` is `fillcolor`. -/
def canonical (name : Text) : Text :=
  let low := Text.lower (Text.trim name)
  let bare := if ("the " : Text).isPrefixOf low then Text.trim (low.drop 4) else low
  let joined := bare.filter fun c => c != '-' && c != '_' && c != ' '
  (aliases.get? joined).getD joined

/-- The properties that an object's place determines. -/
inductive Geometry where
  | left | top | width | height | right | bottom | topLeft | location
  deriving DecidableEq, Repr

/-- The geometric property with a given name. -/
def Geometry.ofName? (name : Text) : Option Geometry :=
  List.lookup name [
    (("left" : Text), Geometry.left), ("top", .top), ("width", .width), ("height", .height),
    ("right", .right), ("bottom", .bottom), ("topleft", .topLeft), ("loc", .location)]

/-- Reads a geometric property of a place. -/
def Geometry.read (r : Rect) : Geometry → Except Fault Text
  | left => r.x.coordinate
  | top => r.y.coordinate
  | width => r.width.coordinate
  | height => r.height.coordinate
  | right => do (← r.x.plus r.width).coordinate
  | bottom => do (← r.y.plus r.height).coordinate
  | topLeft => r.topLeft
  | location => r.location

/-- Two numbers with a comma between them. -/
def point? (value : Text) : Option (Quantity × Quantity) :=
  match Text.splitOn ',' value with
  | [x, y] => do return (.float (← Number.leading? x), .float (← Number.leading? y))
  | _ => none

/-- A number less half of another. -/
def lessHalf (q r : Quantity) : Except Fault Quantity := do q.minus (← r.half)

/-- The place as it is left when a geometric property is written, if the value is of the
right form; with a fault if the attempt broke off.  The middle is moved across first and
then down. -/
def Geometry.write (r : Rect) (g : Geometry) (value : Text) : Option (Rect × Option Fault) :=
  match g with
  | topLeft => do
    let (x, y) ← point? value
    return ({ r with x, y }, none)
  | location => do
    let (x, y) ← point? value
    return match lessHalf x r.width, lessHalf y r.height with
      | .error f, _ => (r, some f)
      | .ok x, .error f => ({ r with x }, some f)
      | .ok x, .ok y => ({ r with x, y }, none)
  | _ => do
    let n := Quantity.float (← Number.leading? value)
    return match g with
      | left => ({ r with x := n }, none)
      | top => ({ r with y := n }, none)
      | width => ({ r with width := n }, none)
      | height => ({ r with height := n }, none)
      | right =>
        match n.minus r.width with
        | .ok x => ({ r with x }, none)
        | .error f => (r, some f)
      | _ =>
        match n.minus r.height with
        | .ok y => ({ r with y }, none)
        | .error f => (r, some f)

/-- The properties that cannot be written. -/
def readOnly : List Text := ["id", "kind", "script", "objects", "rect", "cardsize"]

/-- Whether a text sets a flag: every text but `false` does. -/
def flagOf (value : Text) : Bool := Text.lower (Text.trim value) != "false"

/-- What became of an attempt to write a property. -/
inductive Change where
  | made (e : Entity)
  /-- The entity has no such property, or the value is of the wrong form. -/
  | refused
  | readOnly (property : Text)
  /-- The attempt broke off with a fault and left the entity as it is given here. -/
  | failed (e : Entity) (f : Fault)

/-- The number stored for a written number: a whole number stays whole. -/
def storedNumber (current : Quantity) (x : Float) : Except Fault Quantity :=
  match current with
  | .int _ => do
    let n ← Number.truncate x
    return if Number.isWhole x then .int n else .float x
  | .float _ => .ok (.float x)

/-- Writes an attribute, reading the text as what the attribute holds. -/
def writeAttribute (e : Entity) (n : Attribute.Name) (value : Text) : Change :=
  match e.read n with
  | none => .refused
  | some (.flag _) => .made (e.write n (.flag (flagOf value)))
  | some (.number current) =>
    match Number.leading? value with
    | none => .refused
    | some x =>
      match storedNumber current x with
      | .ok q => .made (e.write n (.number q))
      | .error f => .failed e f
  | some _ => .made (e.write n (.text value))

end Property

namespace Entity

open Property

/-- Reads a property as a text; nothing if the entity has no such property. -/
def property? (e : Entity) (name : Text) : Except Fault (Option Text) :=
  let property := canonical name
  if property = "kind" then .ok (some e.kindName)
  else
    match Geometry.ofName? property, e with
    | some g, .part p => (g.read p.rect).map some
    | _, _ =>
      match (Attribute.Name.ofProperty? property).bind e.read with
      | some a => a.toText.map some
      | none => .ok none

/-- Writes a property from a text. -/
def setProperty (e : Entity) (name value : Text) : Change :=
  let property := canonical name
  let value := Color.expandTriple value
  if readOnly.contains property then .readOnly property
  else
    match Geometry.ofName? property with
    | some g =>
      match e with
      | .part p =>
        match g.write p.rect value with
        | some (rect, none) => .made (.part { p with rect })
        | some (rect, some f) => .failed (.part { p with rect }) f
        | none => .refused
      | _ => .refused
    | none =>
      match Attribute.Name.ofProperty? property with
      | some n => writeAttribute e n value
      | none => .refused

end Entity

end CardTalk
