/-
Configurations as they are loaded: by changing mappings where they stand.

A mapping stands at a place of a `Storage` and holds other mappings by their places, so what
is changed at a place is seen from everywhere.  Loading takes a copy of the built-in
configuration, which stands at a place like any other mapping, and lays on the copy first
what is given and then what a file holds.  What it comes to is `Config.load`.
-/
import CardTalk.Config

namespace CardTalk

/-- What a mapping of a storage has under a name: data that are no mapping, or the place of
one. -/
inductive Slot where
  | datum (d : Data)
  | place (p : Nat)

/-- The entries of all mappings, by place. -/
abbrev Storage := List (Table Slot)

namespace Storage

/-- The entries of the mapping at a place. -/
def entriesAt (s : Storage) (p : Nat) : Table Slot := s[p]?.getD []

/-- Puts something under a name of the mapping at a place. -/
def write (s : Storage) (p : Nat) (name : Text) (slot : Slot) : Storage :=
  s.set p (Table.put (s.entriesAt p) name slot)

/-- The data that something stands for, if at most so many mappings are inside each other. -/
def readWithin? (s : Storage) : Nat → Slot → Option Data
  | _, .datum d => some d
  | 0, .place _ => none
  | depth + 1, .place p => do
    let table ← s[p]?
    return .mapping (← table.mapM fun e => do return (e.1, ← readWithin? s depth e.2))

/-- The data that something stands for.  There are none where a mapping is inside itself; and
where none is, no more mappings are inside each other than the storage has. -/
def read? (s : Storage) (slot : Slot) : Option Data := s.readWithin? s.length slot

mutual

/-- Makes data stand in the storage: each mapping among them gets a new place. -/
def keep (s : Storage) : Data → Slot × Storage
  | .mapping entries =>
    let (table, s) := keepEntries s entries
    (.place s.length, s ++ [table])
  | d => (.datum d, s)

@[inherit_doc keep]
def keepEntries (s : Storage) : List (Text × Data) → Table Slot × Storage
  | [] => ([], s)
  | (name, d) :: rest =>
    let (slot, s) := keep s d
    let (table, s) := keepEntries s rest
    ((name, slot) :: table, s)

end

mutual

/-- Lays data on what the mapping at a place has under a name. -/
def mergeEntry (s : Storage) (p : Nat) (name : Text) : Data → Storage
  | .mapping entries =>
    match Table.get? (s.entriesAt p) name with
    | some (.place q) => mergeInto s q entries
    | _ =>
      let (slot, s) := keep s (.mapping entries)
      write s p name slot
  | d => write s p name (.datum d)

/-- Lays the entries of a mapping on the mapping at a place, one after the other. -/
def mergeInto (s : Storage) (p : Nat) : List (Text × Data) → Storage
  | [] => s
  | (name, d) :: rest => mergeInto (mergeEntry s p name d) p rest

end

end Storage

/-- Loads a configuration: a copy of the one at `defaults` with what `overrides` stands for and
then the entries of a file laid on it.  Gives its place. -/
def Config.loadAt (defaults : Nat) (s : Storage) (overrides : Slot) (entries : Table Data) :
    Option (Nat × Storage) := do
  let given ← s.read? overrides
  match s.keep (← s.read? (.place defaults)) with
  | (.place root, s) => return (root, (s.mergeInto root given.entries).mergeInto root entries)
  | _ => none

end CardTalk
