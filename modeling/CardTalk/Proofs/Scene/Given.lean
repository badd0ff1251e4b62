/-
What a definition gives for an attribute, and what an entity then holds.

Of the entries of a mapping that name an attribute the last one counts (`given?`).  An entity
that is read starts with the usual attributes, and each that is given is written over them;
since writing one attribute leaves the others alone, each holds in the end what is given for
it, or else what is usual (`Entity.read_writeAll`).
-/
import CardTalk.Proofs.Scene.Attribute
import CardTalk.Proofs.Table
import CardTalk.Scene.Definition

namespace CardTalk

/-- What the entries of a definition give for an attribute: the last entry of that name. -/
def Attribute.Name.given? (n : Attribute.Name) (entries : Table Data) : Option Data :=
  (entries.reverse.find? fun e => Reading.key e.1 == n.key).map Prod.snd

/-- What an attribute holds that is usually this, if a definition gives something for it. -/
def Attribute.orGiven (usual : Attribute) : Option Data → Attribute
  | some d => usual.ofData d
  | none => usual

/-- The entries behind the first one with a name. -/
def Table.behind {α : Type} : Table α → Text → Table α
  | [], _ => []
  | e :: rest, name => if e.1 = name then rest else behind rest name

/-! ### The last entry of a name -/

namespace Attribute.Name

theorem ofKey?_key (n : Attribute.Name) : ofKey? n.key = some n := by
  cases n <;> rfl

theorem key_injective {m n : Attribute.Name} (h : m.key = n.key) : m = n :=
  Option.some.inj ((ofKey?_key m).symm.trans ((congrArg ofKey? h).trans (ofKey?_key n)))

theorem given?_cons (n : Attribute.Name) (e : Text × Data) (entries : Table Data) :
    n.given? (e :: entries) =
      (n.given? entries).or (if Reading.key e.1 = n.key then some e.2 else none) := by
  rw [given?, List.reverse_cons, List.find?_append, Option.map_or, given?]
  congr 1
  by_cases h : Reading.key e.1 = n.key
  · rw [if_pos h, List.find?_cons_of_pos (by simpa using h)]
    rfl
  · rw [if_neg h, List.find?_cons_of_neg (by simpa using h)]
    rfl

theorem given?_put (n : Attribute.Name) (entries : Table Data) {name : Text}
    (h : Reading.key name ≠ n.key) (d : Data) :
    n.given? (entries.put name d) = n.given? entries := by
  induction entries with
  | nil => rw [Table.put, given?_cons, if_neg h]; rfl
  | cons e entries ih =>
      obtain ⟨first, old⟩ := e
      rw [Table.put]
      by_cases hfirst : first = name
      · rw [if_pos hfirst, given?_cons, given?_cons, hfirst, if_neg h, if_neg h]
      · rw [if_neg hfirst, given?_cons, ih, given?_cons]

/-- What is put for an attribute counts, unless an entry of that name stands behind its place. -/
theorem given?_put_self {n : Attribute.Name} (entries : Table Data) {name : Text}
    (h : Reading.key name = n.key) (d : Data) :
    n.given? (entries.put name d) = (n.given? (entries.behind name)).or (some d) := by
  induction entries with
  | nil => rw [Table.put, given?_cons, if_pos h]; rfl
  | cons e entries ih =>
      obtain ⟨first, old⟩ := e
      rw [Table.put, Table.behind]
      by_cases hfirst : first = name
      · rw [if_pos hfirst, if_pos hfirst, given?_cons, hfirst, if_pos h]
      · rw [if_neg hfirst, if_neg hfirst, given?_cons, ih, Option.or_assoc, Option.some_or]

theorem given?_remove (n : Attribute.Name) (entries : Table Data) {name : Text}
    (h : Reading.key name ≠ n.key) : n.given? (entries.remove name) = n.given? entries := by
  induction entries with
  | nil => rfl
  | cons e entries ih =>
      rw [Table.remove] at ih ⊢
      by_cases hfirst : e.1 = name
      · rw [List.filter_cons_of_neg (by simp [hfirst]), ih, given?_cons, hfirst, if_neg h,
          Option.or_none]
      · rw [List.filter_cons_of_pos (by simp [hfirst]), given?_cons, ih, given?_cons]

theorem given?_behind_remove (n : Attribute.Name) (entries : Table Data) {name other : Text}
    (h : Reading.key other ≠ n.key) (hne : other ≠ name) :
    n.given? ((entries.remove other).behind name) = n.given? (entries.behind name) := by
  induction entries with
  | nil => rfl
  | cons e entries ih =>
      rw [Table.remove] at ih ⊢
      rw [Table.behind]
      by_cases hfirst : e.1 = name
      · rw [List.filter_cons_of_pos (by simpa [hfirst] using hne.symm), Table.behind, if_pos hfirst,
          if_pos hfirst]
        exact n.given?_remove entries h
      · rw [if_neg hfirst]
        by_cases hother : e.1 = other
        · rw [List.filter_cons_of_neg (by simp [hother]), ih]
        · rw [List.filter_cons_of_pos (by simp [hother]), Table.behind, if_neg hfirst, ih]

end Attribute.Name

namespace Reading

/-- One more entry that may name an attribute. -/
def take (names : List Attribute.Name) (found : Table Data) (e : Text × Data) : Table Data :=
  if key e.1 != Attribute.Name.objects.key && names.any (·.key == key e.1)
  then found.put (key e.1) e.2 else found

theorem attributes_eq (names : List Attribute.Name) (entries : Table Data) :
    attributes names entries = entries.foldl (take names) [] := rfl

variable {names : List Attribute.Name} {found : Table Data}

theorem take_nodup (h : found.names.Nodup) (e : Text × Data) :
    (take names found e).names.Nodup := by
  unfold take
  split
  · exact Table.names_put_nodup h _ _
  · exact h

theorem take_get? {n : Attribute.Name} (hn : n ∈ names) (hobjects : n ≠ .objects)
    (e : Text × Data) :
    (take names found e).get? n.key =
      if key e.1 = n.key then some e.2 else found.get? n.key := by
  unfold take
  split
  · rw [Table.get?_put]
    exact ite_congr (propext eq_comm) (fun _ => rfl) fun _ => rfl
  · rename_i hleft
    have hkey : key e.1 ≠ n.key := by
      intro heq
      refine hleft (Bool.and_eq_true_iff.mpr ⟨?_, List.any_eq_true.mpr ⟨_, hn, ?_⟩⟩)
      · rw [heq]
        exact bne_iff_ne.mpr fun h => hobjects (Attribute.Name.key_injective h)
      · exact beq_iff_eq.mpr heq.symm
    rw [if_neg hkey]

/-- The attribute table of an entity has one entry for a name at most, and for an attribute the
one that is given. -/
theorem attributes_get? {n : Attribute.Name} (hn : n ∈ names) (hobjects : n ≠ .objects)
    (entries : Table Data) :
    (attributes names entries).names.Nodup ∧
      (attributes names entries).get? n.key = n.given? entries := by
  have hfold : ∀ found : Table Data, found.names.Nodup →
      (entries.foldl (take names) found).names.Nodup ∧
      Table.get? (entries.foldl (take names) found) n.key =
        (n.given? entries).or (found.get? n.key) := by
    induction entries with
    | nil => exact fun found hfound => ⟨hfound, rfl⟩
    | cons e entries ih =>
        intro found hfound
        obtain ⟨hnodup, hget⟩ := ih _ (take_nodup hfound e)
        refine ⟨hnodup, hget.trans ?_⟩
        rw [take_get? hn hobjects, Attribute.Name.given?_cons, Option.or_assoc]
        by_cases hkey : key e.1 = n.key
        · rw [if_pos hkey, if_pos hkey, Option.some_or]
        · rw [if_neg hkey, if_neg hkey, Option.none_or]
  obtain ⟨hnodup, hget⟩ := hfold [] List.nodup_nil
  rw [attributes_eq]
  exact ⟨hnodup, hget.trans (Option.or_none ..)⟩

end Reading

/-! ### Writing what is given -/

/-- What is given takes the place of an attribute or leaves it. -/
theorem Attribute.replaces_ofData (usual : Attribute) (d : Data) :
    Replaces usual (usual.ofData d) ∨ usual.ofData d = usual := by
  cases usual with
  | text t => exact .inl (by cases d <;> exact .text ..)
  | flag b => exact .inl (by cases d <;> exact .flag ..)
  | number q => exact .inl (by cases d <;> exact .number ..)
  | unset =>
      cases d with
      | value v => cases v <;> first | exact .inl (.unset ..) | exact .inr rfl
      | list => exact .inl (.unset ..)
      | mapping => exact .inl (.unset ..)
  | rect | size | parts => exact .inr (by cases d <;> rfl)

namespace Entity

/-- Writing what an attribute holds leaves it as it is. -/
theorem read_write_self {x : Entity} {n : Attribute.Name} {a : Attribute}
    (h : x.read n = some a) : (x.write n a).read n = some a := by
  have hbody : ∀ b : Part.Body, b.read n = some a → (b.write n a).read n = some a := by
    intro b hb
    unfold Part.Body.read at hb
    split at hb <;> cases hb <;> rfl
  cases x with
  | stack s =>
      change s.read n = some a at h
      unfold Stack.read at h
      split at h <;> cases h <;> rfl
  | background b =>
      change b.read n = some a at h
      unfold Background.read at h
      split at h <;> cases h <;> rfl
  | card c =>
      change c.read n = some a at h
      unfold Card.read at h
      split at h
      case h_5 => split at h <;> cases h <;> rfl
      all_goals cases h <;> rfl
  | part p =>
      cases n <;> first | (cases h; rfl) | exact hbody _ h

theorem read_write_ofData {x : Entity} {n : Attribute.Name} {usual : Attribute}
    (h : x.read n = some usual) (d : Data) :
    (x.write n (usual.ofData d)).read n = some (usual.ofData d) := by
  rcases usual.replaces_ofData d with hreplaces | hsame
  · exact read_write h hreplaces
  · rw [hsame]
    exact read_write_self h

/-- An attribute that is given is written, and no other. -/
theorem read_writeGiven (x : Entity) (m : Attribute.Name) (name : Text) (d : Data) :
    (x.writeGiven name d).read m =
      if m.key = name then (x.read m).map (·.ofData d) else x.read m := by
  rw [writeGiven]
  by_cases hname : m.key = name
  · rw [if_pos hname, ← hname, Attribute.Name.ofKey?_key]
    dsimp only
    cases hread : x.read m with
    | none => exact hread
    | some usual => exact read_write_ofData hread d
  · rw [if_neg hname]
    split
    · rfl
    · rename_i n hn
      have hne : m ≠ n := by
        rintro rfl
        exact hname (by simpa using List.find?_some hn)
      split
      · rfl
      · exact x.read_write_of_ne hne _

/-- **Every attribute holds what is given for it, or else what is usual.** -/
theorem read_writeAll {given : Table Data} (hgiven : given.names.Nodup) (x : Entity)
    (m : Attribute.Name) :
    (x.writeAll given).read m = (x.read m).map (·.orGiven (given.get? m.key)) := by
  rw [writeAll]
  induction given generalizing x with
  | nil =>
      rw [List.foldl_nil]
      cases x.read m <;> rfl
  | cons e given ih =>
      obtain ⟨name, d⟩ := e
      obtain ⟨hfirst, hrest⟩ := List.nodup_cons.mp hgiven
      rw [List.foldl_cons, ih hrest, read_writeGiven x m, Table.get?_cons]
      by_cases hname : m.key = name
      · have hnone : Table.get? given m.key = none :=
          Table.get?_eq_none_iff.mpr (hname ▸ hfirst)
        rw [if_pos hname, if_pos hname, hnone, Option.map_map]
        rfl
      · rw [if_neg hname, if_neg hname]

end Entity

end CardTalk
