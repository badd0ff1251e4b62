/-
The attributes of entities, one by one.

An attribute is what an entity stores under one name: a text, a truth value, a number, a
place and so on.  Reading an attribute that the entity does not have gives nothing, and
writing it changes nothing; writing one leaves all the others as they were.
-/
import CardTalk.Scene.Basic

namespace CardTalk

/-- The names of attributes. -/
inductive Attribute.Name where
  | id | name | rect | visible | script | layer | rotation
  | title | style | textColor | fillColor | fontSize | enabled
  | content | editable | lockText
  | src | alt | loop | htmlCode | emoji
  | backgroundId | backgroundColor | objects
  | cardSize | backdropColor | patternColor
  deriving DecidableEq, Repr

/-- The value of an attribute. -/
inductive Attribute where
  | text (t : Text)
  | flag (b : Bool)
  | number (q : Quantity)
  /-- A colour that is not set. -/
  | unset
  | rect (r : Rect)
  | size (s : CardSize)
  | parts (ps : List Part)
  deriving DecidableEq

namespace Attribute.Name

/-- All attribute names. -/
def all : List Attribute.Name :=
  [id, name, rect, visible, script, layer, rotation, title, style, textColor, fillColor, fontSize,
    enabled, content, editable, lockText, src, alt, loop, htmlCode, emoji, backgroundId,
    backgroundColor, objects, cardSize, backdropColor, patternColor]

/-- The name in a definition, its words joined by underscores. -/
def key : Attribute.Name → Text
  | id => "id" | name => "name" | rect => "rect" | visible => "visible" | script => "script"
  | layer => "layer" | rotation => "rotation"
  | title => "title" | style => "style" | textColor => "text_color" | fillColor => "fill_color"
  | fontSize => "font_size" | enabled => "enabled"
  | content => "content" | editable => "editable" | lockText => "lock_text"
  | src => "src" | alt => "alt" | loop => "loop" | htmlCode => "html_code" | emoji => "emoji"
  | backgroundId => "background_id" | backgroundColor => "background_color"
  | objects => "objects"
  | cardSize => "card_size" | backdropColor => "backdrop_color" | patternColor => "pattern_color"

/-- The name as scripts write it once case and separators are dropped. -/
def property (n : Attribute.Name) : Text := n.key.filter (· != '_')

/-- The attribute that a property name without case and separators stands for. -/
def ofProperty? (property : Text) : Option Attribute.Name :=
  all.find? fun n => n.property == property

/-- The attribute with a given name in a definition. -/
def ofKey? (key : Text) : Option Attribute.Name := all.find? fun n => n.key == key

/-- The attributes of every object, and after them those of one kind, in their order. -/
def ofKind (k : Part.Kind) : List Attribute.Name :=
  [id, name, rect, visible, script, layer, rotation] ++
    match k with
    | .button => [title, style, textColor, fillColor, fontSize, enabled]
    | .field => [content, style, textColor, fillColor, fontSize, editable, lockText]
    | .image => [src, alt]
    | .audio => [src, loop]
    | .embed => [htmlCode]
    | .emoji => [emoji]

/-- The attributes of a background, a card and the stack, in their order. -/
def ofBackground : List Attribute.Name := [id, name, script, backgroundColor, objects]

@[inherit_doc ofBackground]
def ofCard : List Attribute.Name := [id, name, backgroundId, script, backgroundColor, objects]

@[inherit_doc ofBackground]
def ofStack : List Attribute.Name :=
  [id, name, script, cardSize, backdropColor, backgroundColor, patternColor]

end Attribute.Name

namespace Part.Body

/-- Reads an attribute that only some kinds of object have. -/
def read : Part.Body → Attribute.Name → Option Attribute
  | button title .., .title => some (.text title)
  | button _ style .., .style => some (.text style)
  | button _ _ textColor .., .textColor => some (.text textColor)
  | button _ _ _ fillColor .., .fillColor => some (.text fillColor)
  | button _ _ _ _ fontSize _, .fontSize => some (.number fontSize)
  | button _ _ _ _ _ enabled, .enabled => some (.flag enabled)
  | field content .., .content => some (.text content)
  | field _ style .., .style => some (.text style)
  | field _ _ textColor .., .textColor => some (.text textColor)
  | field _ _ _ fillColor .., .fillColor => some (.text fillColor)
  | field _ _ _ _ fontSize .., .fontSize => some (.number fontSize)
  | field _ _ _ _ _ editable _, .editable => some (.flag editable)
  | field _ _ _ _ _ _ lockText, .lockText => some (.flag lockText)
  | image src _, .src => some (.text src)
  | image _ alt, .alt => some (.text alt)
  | audio src _, .src => some (.text src)
  | audio _ loop, .loop => some (.flag loop)
  | embed htmlCode, .htmlCode => some (.text htmlCode)
  | emoji glyph, .emoji => some (.text glyph)
  | _, _ => none

/-- Writes an attribute that only some kinds of object have. -/
def write : Part.Body → Attribute.Name → Attribute → Part.Body
  | button _ s c f n e, .title, .text t => button t s c f n e
  | button t _ c f n e, .style, .text s => button t s c f n e
  | button t s _ f n e, .textColor, .text c => button t s c f n e
  | button t s c _ n e, .fillColor, .text f => button t s c f n e
  | button t s c f _ e, .fontSize, .number n => button t s c f n e
  | button t s c f n _, .enabled, .flag e => button t s c f n e
  | field _ s c f n e l, .content, .text t => field t s c f n e l
  | field t _ c f n e l, .style, .text s => field t s c f n e l
  | field t s _ f n e l, .textColor, .text c => field t s c f n e l
  | field t s c _ n e l, .fillColor, .text f => field t s c f n e l
  | field t s c f _ e l, .fontSize, .number n => field t s c f n e l
  | field t s c f n _ l, .editable, .flag e => field t s c f n e l
  | field t s c f n e _, .lockText, .flag l => field t s c f n e l
  | image _ alt, .src, .text src => image src alt
  | image src _, .alt, .text alt => image src alt
  | audio _ loop, .src, .text src => audio src loop
  | audio src _, .loop, .flag loop => audio src loop
  | embed _, .htmlCode, .text htmlCode => embed htmlCode
  | emoji _, .emoji, .text glyph => emoji glyph
  | body, _, _ => body

end Part.Body

namespace Part

/-- Reads an attribute of an object. -/
def read (p : Part) : Attribute.Name → Option Attribute
  | .id => some (.text p.id)
  | .name => some (.text p.name)
  | .rect => some (.rect p.rect)
  | .visible => some (.flag p.visible)
  | .script => some (.text p.script)
  | .layer => some (.text p.layer)
  | .rotation => some (.number p.rotation)
  | n => p.body.read n

/-- Writes an attribute of an object. -/
def write (p : Part) : Attribute.Name → Attribute → Part
  | .id, .text id => { p with id }
  | .name, .text name => { p with name }
  | .rect, .rect rect => { p with rect }
  | .visible, .flag visible => { p with visible }
  | .script, .text script => { p with script }
  | .layer, .text layer => { p with layer }
  | .rotation, .number rotation => { p with rotation }
  | n, a => { p with body := p.body.write n a }

end Part

namespace Background

/-- Reads an attribute of a background. -/
def read (b : Background) : Attribute.Name → Option Attribute
  | .id => some (.text b.id)
  | .name => some (.text b.name)
  | .script => some (.text b.script)
  | .backgroundColor => some (.text b.backgroundColor)
  | .objects => some (.parts b.parts)
  | _ => none

/-- Writes an attribute of a background. -/
def write (b : Background) : Attribute.Name → Attribute → Background
  | .id, .text id => { b with id }
  | .name, .text name => { b with name }
  | .script, .text script => { b with script }
  | .backgroundColor, .text backgroundColor => { b with backgroundColor }
  | .objects, .parts parts => { b with parts }
  | _, _ => b

end Background

namespace Card

/-- Reads an attribute of a card. -/
def read (c : Card) : Attribute.Name → Option Attribute
  | .id => some (.text c.id)
  | .name => some (.text c.name)
  | .backgroundId => some (.text c.backgroundId)
  | .script => some (.text c.script)
  | .backgroundColor =>
    match c.backgroundColor with
    | some color => some (.text color)
    | none => some .unset
  | .objects => some (.parts c.parts)
  | _ => none

/-- Writes an attribute of a card. -/
def write (c : Card) : Attribute.Name → Attribute → Card
  | .id, .text id => { c with id }
  | .name, .text name => { c with name }
  | .backgroundId, .text backgroundId => { c with backgroundId }
  | .script, .text script => { c with script }
  | .backgroundColor, .text color => { c with backgroundColor := some color }
  | .backgroundColor, .unset => { c with backgroundColor := none }
  | .objects, .parts parts => { c with parts }
  | _, _ => c

end Card

namespace Stack

/-- Reads an attribute of the stack. -/
def read (s : Stack) : Attribute.Name → Option Attribute
  | .id => some (.text s.id)
  | .name => some (.text s.name)
  | .script => some (.text s.script)
  | .cardSize => some (.size s.cardSize)
  | .backdropColor => some (.text s.backdropColor)
  | .backgroundColor => some (.text s.backgroundColor)
  | .patternColor => some (.text s.patternColor)
  | _ => none

/-- Writes an attribute of the stack. -/
def write (s : Stack) : Attribute.Name → Attribute → Stack
  | .id, .text id => { s with id }
  | .name, .text name => { s with name }
  | .script, .text script => { s with script }
  | .cardSize, .size cardSize => { s with cardSize }
  | .backdropColor, .text backdropColor => { s with backdropColor }
  | .backgroundColor, .text backgroundColor => { s with backgroundColor }
  | .patternColor, .text patternColor => { s with patternColor }
  | _, _ => s

end Stack

namespace Entity

/-- Reads an attribute of an entity. -/
def read : Entity → Attribute.Name → Option Attribute
  | stack s => s.read
  | background b => b.read
  | card c => c.read
  | part p => p.read

/-- Writes an attribute of an entity. -/
def write (e : Entity) (n : Attribute.Name) (a : Attribute) : Entity :=
  match e with
  | stack s => stack (s.write n a)
  | background b => background (b.write n a)
  | card c => card (c.write n a)
  | part p => part (p.write n a)

/-- The attributes of an entity, in their order. -/
def attributes : Entity → List Attribute.Name
  | stack _ => Attribute.Name.ofStack
  | background _ => Attribute.Name.ofBackground
  | card _ => Attribute.Name.ofCard
  | part p => Attribute.Name.ofKind p.kind

end Entity

/-! ### Attributes as text -/

namespace Attribute

/-- An attribute as it stands in the description of an object. -/
def described : Attribute → Text
  | text t => Text.quoted t
  | flag b => (Value.logical b).shown
  | number q => q.described
  | unset => Value.null.shown
  | rect r => r.described
  | size s =>
    ("CardSize(width=" : Text) ++ Text.ofInt s.width ++ ", height=" ++ Text.ofInt s.height ++ ")"
  -- a list of objects is described by `Part.describedList`
  | parts _ => []

end Attribute

/-- The description of an object: its kind and all its attributes in order. -/
def Part.described (p : Part) : Text :=
  let fields := (Attribute.Name.ofKind p.kind).filterMap fun n =>
    (p.read n).map fun a => n.key ++ '=' :: a.described
  p.kind.title ++ '(' :: Text.joined ", " fields ++ ")"

/-- The description of a list of objects. -/
def Part.describedList (ps : List Part) : Text :=
  '[' :: Text.joined ", " (ps.map Part.described) ++ "]"

/-- How a script sees an attribute. -/
def Attribute.toText : Attribute → Except Fault Text
  | text t => .ok t
  | flag b => .ok (Value.ofBool b)
  | number q => q.text
  | unset => .ok []
  | parts ps => .ok (Part.describedList ps)
  | a => .ok a.described

end CardTalk
