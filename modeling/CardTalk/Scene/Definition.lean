/-
Building a scene from a stack definition.

A definition is a mapping with the stack's own attributes, its backgrounds and its cards,
each with their objects.  Attribute names may be written with capitals or with
underscores; unknown ones are ignored.  What is missing gets its usual value, and an
entity without an identifier is given one, the objects of a card or background before
the card or background itself.
-/
import CardTalk.Scene.Attribute
import CardTalk.Scene.Navigation
import CardTalk.Data

namespace CardTalk

/-- Reading a definition: it may fail, and it counts the identifiers handed out. -/
abbrev Reading (α : Type) := StateT Nat (Except Fault) α

namespace Reading

/-- Hands out an identifier. -/
def freshId (word : Text) : Reading Text := do
  let issued ← get
  set (issued + 1)
  return Identifier.make word (issued + 1)

/-- An attribute name with its words joined by underscores. -/
def key (name : Text) : Text :=
  name.flatMap fun c => if c.isUpper then ['_', c.toLower] else [c]

/-- The entries of a mapping that name one of the given attributes, the later of two
entries for one attribute winning.  Objects are read separately. -/
def attributes (names : List Attribute.Name) (entries : Table Data) : Table Data :=
  let take := fun (found : Table Data) (e : Text × Data) =>
    let name := key e.1
    if name != Attribute.Name.objects.key && names.any (·.key == name) then found.put name e.2
    else found
  entries.foldl take []

end Reading

namespace Attribute

/-- Reads what a definition gives for an attribute, which holds `usual` otherwise. -/
def ofData (usual : Attribute) (d : Data) : Attribute :=
  match usual, d with
  | flag b, .value v => flag (v.isTruthy.toOption.getD b)
  | number q, .value v => number ((Quantity.ofValue? v).getD q)
  | unset, .value .null => unset
  | unset, d => text d.toText
  | text _, d => text d.toText
  | usual, _ => usual

end Attribute

/-- Writes the attribute with a given name, if the entity has it. -/
def Entity.writeGiven (e : Entity) (name : Text) (d : Data) : Entity :=
  match Attribute.Name.ofKey? name with
  | none => e
  | some n =>
    match e.read n with
    | none => e
    | some usual => e.write n (usual.ofData d)

/-- Writes the given attributes, one after the other. -/
def Entity.writeAll (e : Entity) (given : Table Data) : Entity :=
  given.foldl (fun e entry => e.writeGiven entry.1 entry.2) e

/-! ### Objects -/

namespace Part

/-- What an object of a kind has when nothing is given. -/
def Body.usual : Part.Kind → Part.Body
  | .button => .button [] "roundrect" "#000000" "#dddddd" 16 true
  | .field => .field [] "rectangle" "#000000" "#ffffff" 16 true false
  | .image => .image [] []
  | .audio => .audio [] false
  | .embed => .embed []
  | .emoji => .emoji "🚀"

/-- The usual place of an object of a kind. -/
def usualRect (k : Part.Kind) : Rect :=
  let (width, height) := k.usualSize
  ⟨80, 80, width, height⟩

/-- A number in the place of an object. -/
def coordinate (usual : Quantity) : Option Data → Quantity
  | some (.value v) => (Quantity.ofValue? v).getD usual
  | _ => usual

/-- The place that a definition gives: a mapping of its numbers or a list of four. -/
def rectOf (k : Part.Kind) : Option Data → Rect
  | some (.mapping es) =>
    { x := coordinate 80 (Table.get? es "x")
      y := coordinate 80 (Table.get? es "y")
      width := coordinate 200 (Table.get? es "width")
      height := coordinate 100 (Table.get? es "height") }
  | some (.list [x, y, width, height]) =>
    let usual := usualRect k
    { x := coordinate usual.x (some x)
      y := coordinate usual.y (some y)
      width := coordinate usual.width (some width)
      height := coordinate usual.height (some height) }
  | _ => usualRect k

/-- The kind that a definition gives. -/
def kindOf (entries : Table Data) : Except Fault Part.Kind :=
  let word := (entries.get? "type").getD ((entries.get? "kind").getD (.value (.text "button")))
  let kind := match word with
    | .value (.text t) => Part.Kind.ofName? t
    | _ => none
  match kind with
  | some k => .ok k
  | none => .error (.unknownKind word.described)

/-- The text that is given for an attribute, if one is. -/
def givenText? (given : Table Data) (n : Attribute.Name) : Option Text :=
  match given.get? n.key with
  | none | some (.value .null) => none
  | some d => some d.toText

/-- Reads an object; `layer` is where it lies unless it says otherwise. -/
def ofData (layer : Text) (d : Data) : Reading Part := do
  let kind ← kindOf d.entries
  let given := Reading.attributes (Attribute.Name.ofKind kind) (d.entries.remove "rect")
  let id ← match givenText? given .id with
    | none | some [] => Reading.freshId kind.name
    | some id => pure id
  let name := match givenText? given .name with
    | none | some [] => ("New " : Text) ++ kind.title
    | some name => name
  let bare : Part :=
    { id, name, rect := rectOf kind (d.get? "rect"), visible := true, script := [], layer
      rotation := 0, body := .usual kind }
  let given := (given.remove Attribute.Name.id.key).remove Attribute.Name.name.key
  let given := match givenText? given .title with
    | none => given.put Attribute.Name.title.key (.value (.text name))
    | some _ => given
  match (Entity.part bare).writeAll given with
  | .part p => return p
  | _ => return bare

/-- Reads the objects of a card or background. -/
def listOfData (layer : Text) (entries : Table Data) : Reading (List Part) := do
  let items ← (entries.get? "objects").elim (pure []) fun d => d.items
  items.mapM (ofData layer)

end Part

/-! ### Backgrounds, cards and the stack -/

/-- The identifier that is given, or a new one. -/
def Reading.idOr (given : Table Data) (word : Text) : Reading Text :=
  match given.get? Attribute.Name.id.key with
  | some d => pure d.toText
  | none => Reading.freshId word

namespace Background

/-- A background with nothing on it. -/
def usual (id : Text) : Background :=
  { id, name := "Background 1", script := [], backgroundColor := "#ffffff", parts := [] }

/-- Reads a background. -/
def ofData (d : Data) : Reading Background := do
  let parts ← Part.listOfData "background" d.entries
  let given := Reading.attributes Attribute.Name.ofBackground d.entries
  let id ← Reading.idOr given "bg"
  match (Entity.background (usual id)).writeAll given with
  | .background b => return { b with parts }
  | _ => return usual id

/-- The backgrounds with one more; one with the same identifier is replaced where it is. -/
def insert (b : Background) : List Background → List Background
  | [] => [b]
  | other :: rest => if other.id = b.id then b :: rest else other :: insert b rest

end Background

namespace Card

/-- A card with nothing on it. -/
def usual (id name : Text) : Card :=
  { id, name, backgroundId := [], script := [], backgroundColor := none, parts := [] }

/-- The identifier of the background that a card's definition means: the one with that
identifier, or else the first one with that name. -/
def backgroundRef (backgrounds : List Background) (ref : Text) : Text :=
  let found := (backgrounds.find? fun b => b.id == ref).or
    (backgrounds.find? fun b => b.name == ref)
  (found.map Background.id).getD []

/-- The entries of a card's definition with the background given by its identifier. -/
def resolveBackground (backgrounds : List Background) (entries : Table Data) : Table Data :=
  match entries.get? "background" with
  | none => entries
  | some ref =>
    (entries.remove "background").put Attribute.Name.backgroundId.key
      (.value (.text (backgroundRef backgrounds ref.shown)))

/-- Reads a card. -/
def ofData (backgrounds : List Background) (d : Data) : Reading Card := do
  let entries := resolveBackground backgrounds d.entries
  let parts ← Part.listOfData "card" entries
  let given := Reading.attributes Attribute.Name.ofCard entries
  let id ← Reading.idOr given "card"
  match (Entity.card (usual id "Untitled Card")).writeAll given with
  | .card c => return { c with parts }
  | _ => return usual id "Untitled Card"

end Card

namespace Stack

/-- A stack with the usual colours and size. -/
def usual (id : Text) : Stack :=
  { id, name := "Untitled Stack", script := [], cardSize := ⟨1200, 800⟩
    backdropColor := "#e0e0e0", backgroundColor := "#ffffff", patternColor := "#d0d0d0" }

/-- The card size that a definition gives, under either of its names. -/
def sizeOf? (entries : Table Data) : Option Data :=
  let given := fun name : Text => (entries.get? name).filter fun d => !d.isBlank
  (given "card_size").or (given "cardSize")

/-- Reads the stack's own attributes. -/
def ofData (d : Data) : Reading Stack := do
  let given := Reading.attributes Attribute.Name.ofStack d.entries
  let id ← Reading.idOr given "stack"
  let stack := match (Entity.stack (usual id)).writeAll given with
    | .stack s => s
    | _ => usual id
  match sizeOf? d.entries with
  | none => return stack
  | some size =>
    let width ← ((size.get? "width").getD (.value (.int 1200))).toInt
    let height ← ((size.get? "height").getD (.value (.int 800))).toInt
    return { stack with cardSize := ⟨width, height⟩ }

end Stack

/-! ### The scene -/

namespace Scene

/-- A position forced into a list of a length: the first for negative ones, the last for
those beyond. -/
def clamp (position : Int) (length : Nat) : Nat := (max 0 (min position (length - 1))).toNat

/-- Puts a scene together.  A scene has at least one background and one card, and every
card lies on one of the backgrounds, on the first where it names none of them. -/
def assemble (stack : Stack) (backgrounds : List Background) (cards : List Card)
    (position : Int) (issued : Nat) : Scene :=
  let (backgrounds, issued) :=
    if backgrounds.isEmpty then ([.usual (Identifier.make "bg" (issued + 1))], issued + 1)
    else (backgrounds, issued)
  let (cards, issued) :=
    if cards.isEmpty then ([.usual (Identifier.make "card" (issued + 1)) "Home"], issued + 1)
    else (cards, issued)
  let first := (backgrounds.head?.map Background.id).getD []
  let cards := cards.map fun c : Card =>
    if backgrounds.any (·.id == c.backgroundId) then c else { c with backgroundId := first }
  { stack, backgrounds, cards, issued
    current := clamp position cards.length
    history := [], transition := none, animations := [], edits := [] }

/-- The items of a list in a definition, none if there is nothing. -/
def listEntry (entries : Table Data) (name : Text) : Except Fault (List Data) :=
  match entries.get? name with
  | none => .ok []
  | some d => if d.isBlank then .ok [] else d.items

/-- Reads a stack definition. -/
def read (entries : Table Data) : Reading Scene := do
  let stack ← Stack.ofData ((entries.get? "stack").getD .null)
  let insert := fun bs d => do return (← Background.ofData d).insert bs
  let backgrounds ← (← listEntry entries "backgrounds").foldlM insert []
  let cards ← (← listEntry entries "cards").mapM (Card.ofData backgrounds)
  let position ← ((entries.get? "current_card").getD (.value (.int 0))).toInt
  return assemble stack backgrounds cards position (← get)

/-- The scene of a stack definition. -/
def ofDefinition (entries : Table Data) : Except Fault Scene := (read entries).run' 0

/-- The scene of a definition file.  Its cards are counted before anything is read. -/
def ofFile (path : Text) (d : Data) : Except Fault Scene := do
  let entries ← Data.ofFile "Stack file" path d
  let _ ← ((entries.get? "cards").getD .null).count
  ofDefinition entries

/-- The scene without a definition: a stack of one empty card. -/
def blank : Scene := assemble (.usual (Identifier.make "stack" 1)) [] [] 0 1

end Scene

end CardTalk
