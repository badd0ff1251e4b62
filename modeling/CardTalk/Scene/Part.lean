/-
The objects that lie on cards and backgrounds.

A part has what all objects share (an identifier, a name, a place, a script) and what
its kind adds: only a field has content, only a button a title.  Parts that are made
without a name or a place get those usual for their kind.
-/
import CardTalk.Scene.Quantity

namespace CardTalk

/-- The kinds of object. -/
inductive Part.Kind where
  | button | field | image | audio | embed | emoji
  deriving DecidableEq, Repr

namespace Part.Kind

/-- The kinds in their usual order. -/
def all : List Part.Kind := [button, field, image, audio, embed, emoji]

/-- The word for a kind. -/
def name : Part.Kind → Text
  | button => "button"
  | field => "field"
  | image => "image"
  | audio => "audio"
  | embed => "embed"
  | emoji => "emoji"

/-- The word for a kind with a capital. -/
def title : Part.Kind → Text
  | button => "Button"
  | field => "Field"
  | image => "Image"
  | audio => "Audio"
  | embed => "Embed"
  | emoji => "Emoji"

/-- The kind with a given word. -/
def ofName? (word : Text) : Option Part.Kind := all.find? fun k => k.name == word

/-- Width and height of an object whose place is not given. -/
def usualSize : Part.Kind → Quantity × Quantity
  | button => (130, 36)
  | embed => (560, 315)
  | emoji => (80, 80)
  | _ => (200, 100)

end Part.Kind

/-- The place of an object: its left upper corner and its size. -/
structure Rect where
  x : Quantity
  y : Quantity
  width : Quantity
  height : Quantity
  deriving DecidableEq

namespace Rect

/-- The left upper corner, as a script sees it. -/
def topLeft (r : Rect) : Except Fault Text := do
  return (← r.x.coordinate) ++ ',' :: (← r.y.coordinate)

/-- The middle, as a script sees it. -/
def location (r : Rect) : Except Fault Text := do
  let x ← r.x.plus (← r.width.half)
  let y ← r.y.plus (← r.height.half)
  return (← x.coordinate) ++ ',' :: (← y.coordinate)

/-- Whether two places are the same. -/
def same (r s : Rect) : Bool :=
  r.x.same s.x && r.y.same s.y && r.width.same s.width && r.height.same s.height

/-- The place as it stands in the description of an object. -/
def described (r : Rect) : Text :=
  ("Rect(x=" : Text) ++ r.x.described ++ ", y=" ++ r.y.described ++ ", width="
    ++ r.width.described ++ ", height=" ++ r.height.described ++ ")"

end Rect

/-- What a kind of object adds to what all objects have. -/
inductive Part.Body where
  | button (title style textColor fillColor : Text) (fontSize : Quantity) (enabled : Bool)
  | field (content style textColor fillColor : Text) (fontSize : Quantity)
      (editable lockText : Bool)
  | image (src alt : Text)
  | audio (src : Text) (loop : Bool)
  | embed (htmlCode : Text)
  | emoji (emoji : Text)
  deriving DecidableEq

/-- The kind that a body belongs to. -/
def Part.Body.kind : Part.Body → Part.Kind
  | button .. => .button
  | field .. => .field
  | image .. => .image
  | audio .. => .audio
  | embed .. => .embed
  | emoji .. => .emoji

/-- An object on a card or a background. -/
structure Part where
  id : Text
  name : Text
  rect : Rect
  visible : Bool
  script : Text
  layer : Text
  rotation : Quantity
  body : Part.Body
  deriving DecidableEq

namespace Part

/-- The kind of an object. -/
def kind (p : Part) : Kind := p.body.kind

/-- The content of a field; other objects have none. -/
def content? (p : Part) : Option Text :=
  match p.body with
  | .field content .. => some content
  | _ => none

/-- The object with other content, if it is a field. -/
def withContent (p : Part) (content : Text) : Part :=
  match p.body with
  | .field _ style textColor fillColor fontSize editable lockText =>
    { p with body := .field content style textColor fillColor fontSize editable lockText }
  | _ => p

/-- Whether the object answers to a name: its own in any case, or its identifier. -/
def answersTo (p : Part) (name : Text) : Bool :=
  Text.lower p.name == Text.lower name || p.id == name

/-- The same, except that an object without a name answers only to its identifier. -/
def isNamed (p : Part) (name : Text) : Bool :=
  (!p.name.isEmpty && Text.lower p.name == Text.lower name) || p.id == name

end Part

/-- Whether two bodies agree, stored numbers compared as numbers. -/
def Part.Body.same : Part.Body → Part.Body → Bool
  | button t s c f n e, button t' s' c' f' n' e' =>
    t == t' && s == s' && c == c' && f == f' && n.same n' && e == e'
  | field t s c f n e l, field t' s' c' f' n' e' l' =>
    t == t' && s == s' && c == c' && f == f' && n.same n' && e == e' && l == l'
  | a, b => a == b

/-- Whether two objects agree in everything, stored numbers compared as numbers. -/
def Part.same (p q : Part) : Bool :=
  p.id == q.id && p.name == q.name && p.rect.same q.rect && p.visible == q.visible
    && p.script == q.script && p.layer == q.layer && p.rotation.same q.rotation
    && p.body.same q.body

end CardTalk
