/-
Tables: values by name, in the order in which the names first came.

A name stands in a table at most once as long as entries are only put with `put`: a name
that is there already gets the new value at its old place.
-/
import CardTalk.Text.Basic

namespace CardTalk

/-- Values by name. -/
abbrev Table (α : Type) := List (Text × α)

namespace Table

variable {α : Type}

/-- The value of a name. -/
def get? (t : Table α) (name : Text) : Option α := List.lookup name t

/-- Whether a name has a value. -/
def has (t : Table α) (name : Text) : Bool := (get? t name).isSome

/-- The table with a value for a name. -/
def put (t : Table α) (name : Text) (value : α) : Table α :=
  match t with
  | [] => [(name, value)]
  | (other, old) :: rest =>
    if other = name then (other, value) :: rest else (other, old) :: put rest name value

/-- The table without a name. -/
def remove (t : Table α) (name : Text) : Table α := t.filter fun e => e.1 != name

/-- The names in a table. -/
def names (t : Table α) : List Text := t.map Prod.fst

end Table

end CardTalk
