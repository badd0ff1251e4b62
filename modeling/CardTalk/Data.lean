/-
Plain data: what stack definitions and configuration files hold.

Data are single values, lists and mappings from names; the entries of a mapping keep
their order.
-/
import CardTalk.Value
import CardTalk.Table

namespace CardTalk

/-- A value, a list or a mapping. -/
inductive Data where
  | value (v : Value)
  | list (items : List Data)
  | mapping (entries : List (Text × Data))

namespace Data

/-- Nothing. -/
abbrev null : Data := value .null

/-- The name of the type, as messages give it. -/
def typeName : Data → Text
  | value v => v.typeName
  | list _ => "list"
  | mapping _ => "dict"

/-- Whether there is nothing in it: no value, a zero, an empty text, list or mapping. -/
def isBlank : Data → Bool
  | value .null => true
  | value (.logical b) => !b
  | value (.int n) => n == 0
  | value (.float x) => x == 0
  | value (.text t) => t.isEmpty
  | list items => items.isEmpty
  | mapping entries => entries.isEmpty

/-- The text that data are, if they are one. -/
def text? : Data → Option Text
  | value (.text t) => some t
  | _ => none

/-- The entries of a mapping; other data have none. -/
def entries : Data → Table Data
  | mapping es => es
  | _ => []

/-- The items of a list, where one is needed. -/
def items : Data → Except Fault (List Data)
  | list ds => .ok ds
  | mapping es => .ok (es.map fun e => .value (.text e.1))
  | value (.text t) => .ok (t.map fun c => .value (.text [c]))
  | d => .error (.notAList d.typeName)

/-- How many items there are in a list, a mapping or a text, or in nothing. -/
def count (d : Data) : Except Fault Nat :=
  match d with
  | list ds => .ok ds.length
  | mapping es => .ok es.length
  | value (.text t) => .ok t.length
  | value v => if d.isBlank then .ok 0 else .error (.noLength v.typeName)

/-- The entry of a mapping with a name. -/
def get? (d : Data) (name : Text) : Option Data := d.entries.get? name

/-- The whole number that data denote, where one is needed. -/
def toInt : Data → Except Fault Int
  | value v => v.toInt
  | d => .error (.noIntegerReading d.typeName)

/-- How data are written in a message. -/
def shown : Data → Text
  | value v => v.shown
  | d => d.typeName

/-- How data are quoted in a message. -/
def described : Data → Text
  | value v => v.described
  | d => d.typeName

/-- Data as a text attribute holds them. -/
def toText : Data → Text
  | value v => v.toText.toOption.getD v.shown
  | _ => []

/-! ### Files -/

/-- The mapping that a file holds whose contents have been read; an empty file holds the empty
one. -/
def ofFile (what path : Text) (d : Data) : Except Fault (Table Data) :=
  if d.isBlank then .ok []
  else
    match d with
    | mapping es => .ok es
    | _ => .error (.fileNotMapping what path d.typeName)

/-! ### One mapping over another -/

mutual

/-- Lays `top` on `base`: where both have a mapping the two are united, and everywhere
else `top` wins. -/
def overlay : Data → Data → Data
  | mapping base, mapping top => mapping (overlayEntries base top)
  | _, top => top

/-- Lays the entries of one mapping on another, one after the other. -/
def overlayEntries (base : List (Text × Data)) : List (Text × Data) → List (Text × Data)
  | [] => base
  | (name, d) :: rest =>
    let united := match Table.get? base name with
      | some old => overlay old d
      | none => d
    overlayEntries (Table.put base name united) rest

end

end Data

end CardTalk
