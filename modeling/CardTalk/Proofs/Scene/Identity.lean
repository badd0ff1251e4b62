/-
Where the identifiers of a scene come from.

Reading a definition gives identifiers to entities in a fixed order, the objects of a card or
background before the card or background itself.  `Scene.labels` says of each of them whether it
is given or made.  An entity that is read has the identifier of its label and hands out no other
(`Reading.Takes`), because writing the attributes it is given leaves its identifier as it is.
-/
import CardTalk.Proofs.Scene.Given
import CardTalk.Proofs.Scene.Identifier
import Mathlib.Data.List.Forall2

namespace CardTalk

/-! ### Where identifiers come from -/

/-- What a definition gives for the identifier of an entity: the last entry of that name. -/
def givenId? (entries : Table Data) : Option Data :=
  (entries.reverse.find? fun e => Reading.key e.1 == Attribute.Name.id.key).map Prod.snd

/-- The items of a list in a definition, none where there is no list. -/
def itemsOf (entries : Table Data) (name : Text) : List Data :=
  ((entries.get? name).bind fun d => d.items.toOption).getD []

/-- The label of an entity that takes the identifier it is given as it is. -/
def Label.ofEntries (entries : Table Data) (word : Text) : Label :=
  match givenId? entries with
  | some d => .given d.toText
  | none => .made word

/-- The label of an object, which takes no empty identifier. -/
def Part.label (d : Data) : Label :=
  match (givenId? d.entries).map Data.toText with
  | none | some [] => .made ((Part.kindOf d.entries).toOption.elim [] Part.Kind.name)
  | some id => .given id

/-- The labels of the objects of a card or background. -/
def Part.labels (entries : Table Data) : List Label := (itemsOf entries "objects").map Part.label

/-- The labels of a background and its objects. -/
def Background.labels (d : Data) : List Label :=
  Part.labels d.entries ++ [Label.ofEntries d.entries "bg"]

/-- The labels of a card and its objects. -/
def Card.labels (d : Data) : List Label :=
  Part.labels d.entries ++ [Label.ofEntries d.entries "card"]

/-- The backgrounds and the cards that a definition lists. -/
def Scene.listed (entries : Table Data) (name : Text) : List Data :=
  (Scene.listEntry entries name).toOption.getD []

/-- The labels of all that a definition lists, in the order in which it is read. -/
def Scene.listedLabels (entries : Table Data) : List Label :=
  [Label.ofEntries ((entries.get? "stack").getD .null).entries "stack"] ++
    (listed entries "backgrounds").flatMap Background.labels ++
    (listed entries "cards").flatMap Card.labels

/-- The labels of the background and the card that are made where there would be none. -/
def Scene.usualLabels (noBackgrounds noCards : Bool) : List Label :=
  (if noBackgrounds then [.made "bg"] else []) ++ (if noCards then [.made "card"] else [])

/-- The labels of all that a definition makes. -/
def Scene.labels (entries : Table Data) : List Label :=
  listedLabels entries ++
    usualLabels (listed entries "backgrounds").isEmpty (listed entries "cards").isEmpty

/-- The identifiers of a background and its objects. -/
def Background.ids (b : Background) : List Text := b.parts.map Part.id ++ [b.id]

/-- The identifiers of a card and its objects. -/
def Card.ids (c : Card) : List Text := c.parts.map Part.id ++ [c.id]

/-- All the identifiers in a scene. -/
def Scene.ids (s : Scene) : List Text :=
  [s.stack.id] ++ s.backgrounds.flatMap Background.ids ++ s.cards.flatMap Card.ids

/-! ### Reading step by step -/

namespace Reading

variable {α β : Type}

theorem bind_eq {r : Reading α} {next : α → Reading β} {n n' : Nat} {a : α}
    (h : r n = .ok (a, n')) : (r >>= next) n = next a n' := by
  show (r n >>= fun result => next result.1 result.2) = next a n'
  rw [h]
  rfl

theorem bind_ok {r : Reading α} {next : α → Reading β} {n n'' : Nat} {b : β}
    (h : (r >>= next) n = .ok (b, n'')) :
    ∃ a n', r n = .ok (a, n') ∧ next a n' = .ok (b, n'') := by
  cases hr : r n with
  | error f => simp [bind, StateT.bind, Except.bind, hr] at h
  | ok result =>
      obtain ⟨a, n'⟩ := result
      refine ⟨a, n', rfl, ?_⟩
      simpa [bind, StateT.bind, Except.bind, hr] using h

theorem pure_ok {a b : α} {n n' : Nat} (h : (pure a : Reading α) n = .ok (b, n')) :
    b = a ∧ n' = n := by
  obtain ⟨rfl, rfl⟩ := Prod.mk.inj (Except.ok.inj h)
  exact ⟨rfl, rfl⟩

theorem lift_ok {x : Except Fault α} {a : α} {n n' : Nat}
    (h : (liftM x : Reading α) n = .ok (a, n')) : x = .ok a ∧ n' = n := by
  cases x with
  | error f => exact nomatch h
  | ok a' =>
      obtain ⟨rfl, rfl⟩ := Prod.mk.inj (Except.ok.inj h)
      exact ⟨rfl, rfl⟩

theorem freshId_ok {word id : Text} {n n' : Nat} (h : freshId word n = .ok (id, n')) :
    [id] = Label.ids n [.made word] ∧ n' = n + (Label.words [.made word]).length := by
  obtain ⟨rfl, rfl⟩ := Prod.mk.inj (Except.ok.inj h)
  exact ⟨rfl, rfl⟩

/-- What is read has the identifiers of these labels, and no others are handed out. -/
def Takes (r : Reading α) (labels : List Label) (ids : α → List Text) : Prop :=
  ∀ {n a n'}, r n = .ok (a, n') →
    ids a = Label.ids n labels ∧ n' = n + (Label.words labels).length

theorem takes_mapM {read : Data → Reading α} {labels : Data → List Label} {ids : α → List Text}
    (h : ∀ d, (read d).Takes (labels d) ids) {ds : List Data} {n n' : Nat} {as : List α}
    (has : ds.mapM read n = .ok (as, n')) :
    as.flatMap ids = Label.ids n (ds.flatMap labels) ∧
      n' = n + (Label.words (ds.flatMap labels)).length ∧
      List.Forall₂ (fun d a => ∃ m m', read d m = .ok (a, m')) ds as := by
  induction ds generalizing n as with
  | nil =>
      rw [List.mapM_nil] at has
      obtain ⟨rfl, rfl⟩ := pure_ok has
      exact ⟨rfl, rfl, .nil⟩
  | cons d ds ih =>
      rw [List.mapM_cons] at has
      obtain ⟨a, n₁, ha, has⟩ := bind_ok has
      obtain ⟨rest, n₂, hrest, has⟩ := bind_ok has
      obtain ⟨rfl, rfl⟩ := pure_ok has
      obtain ⟨hids, rfl⟩ := h d ha
      obtain ⟨hidss, rfl, hread⟩ := ih hrest
      refine ⟨?_, ?_, .cons ⟨_, _, ha⟩ hread⟩
      · rw [List.flatMap_cons, List.flatMap_cons, hids, hidss, Label.ids_append]
      · rw [List.flatMap_cons, Label.words_append, List.length_append, Nat.add_assoc]

end Reading

/-! ### The identifier that is given -/

theorem givenId?_put (entries : Table Data) {name : Text}
    (h : Reading.key name ≠ Attribute.Name.id.key) (d : Data) :
    givenId? (entries.put name d) = givenId? entries :=
  Attribute.Name.id.given?_put entries h d

theorem givenId?_remove (entries : Table Data) {name : Text}
    (h : Reading.key name ≠ Attribute.Name.id.key) :
    givenId? (entries.remove name) = givenId? entries :=
  Attribute.Name.id.given?_remove entries h

/-- The attribute table of an entity has one entry for a name at most, and for the identifier the
one that is given. -/
theorem Reading.attributes_id {names : List Attribute.Name} (hid : Attribute.Name.id ∈ names)
    (entries : Table Data) :
    (attributes names entries).names.Nodup ∧
      (attributes names entries).get? Attribute.Name.id.key = givenId? entries :=
  attributes_get? hid nofun entries

/-! ### Writing the other attributes -/

namespace Entity

/-- Two entities of the same kind with the same identifier. -/
inductive SameId : Entity → Entity → Prop
  | stack {s s' : Stack} (h : s'.id = s.id) : SameId (.stack s) (.stack s')
  | background {b b' : Background} (h : b'.id = b.id) : SameId (.background b) (.background b')
  | card {c c' : Card} (h : c'.id = c.id) : SameId (.card c) (.card c')
  | part {p p' : Part} (h : p'.id = p.id) : SameId (.part p) (.part p')

theorem SameId.refl (x : Entity) : x.SameId x := by
  cases x <;> constructor <;> rfl

theorem SameId.trans {x y z : Entity} (h : x.SameId y) (h' : y.SameId z) : x.SameId z := by
  cases h with
  | stack h => cases h' with | stack h' => exact .stack (h'.trans h)
  | background h => cases h' with | background h' => exact .background (h'.trans h)
  | card h => cases h' with | card h' => exact .card (h'.trans h)
  | part h => cases h' with | part h' => exact .part (h'.trans h)

theorem SameId.id_eq {x y : Entity} (h : x.SameId y) : y.id = x.id := by
  cases h <;> assumption

theorem read_id (x : Entity) : x.read .id = some (.text x.id) := by
  cases x <;> rfl

theorem sameId_write (x : Entity) (n : Attribute.Name) (a : Attribute)
    (h : n = .id → a = .text x.id) : x.SameId (x.write n a) := by
  cases x with
  | stack s =>
      refine .stack ?_
      show (s.write n a).id = s.id
      unfold Stack.write
      split
      · exact Attribute.text.inj (h rfl)
      all_goals rfl
  | background b =>
      refine .background ?_
      show (b.write n a).id = b.id
      unfold Background.write
      split
      · exact Attribute.text.inj (h rfl)
      all_goals rfl
  | card c =>
      refine .card ?_
      show (c.write n a).id = c.id
      unfold Card.write
      split
      · exact Attribute.text.inj (h rfl)
      all_goals rfl
  | part p =>
      refine .part ?_
      show (p.write n a).id = p.id
      unfold Part.write
      split
      · exact Attribute.text.inj (h rfl)
      all_goals rfl

theorem sameId_writeGiven (x : Entity) (name : Text) (d : Data)
    (h : name = Attribute.Name.id.key → d.toText = x.id) : x.SameId (x.writeGiven name d) := by
  unfold writeGiven
  split
  · exact .refl x
  · rename_i n hn
    split
    · exact .refl x
    · rename_i usual husual
      refine sameId_write x n _ fun hid => ?_
      have hname : n.key = name := by
        simpa using List.find?_some hn
      subst hid
      rw [read_id] at husual
      rw [← Option.some.inj husual, Attribute.ofData]
      exact congrArg Attribute.text (h hname.symm)

/-- Writing attributes among which only its own identifier is given keeps it. -/
theorem sameId_writeAll (x : Entity) (given : Table Data)
    (h : ∀ e ∈ given, e.1 = Attribute.Name.id.key → e.2.toText = x.id) :
    x.SameId (x.writeAll given) := by
  unfold writeAll
  induction given generalizing x with
  | nil => exact .refl x
  | cons e given ih =>
      have hfirst := sameId_writeGiven x e.1 e.2 (h e List.mem_cons_self)
      refine hfirst.trans (ih _ fun e' he' heq => ?_)
      rw [hfirst.id_eq]
      exact h e' (List.mem_cons_of_mem _ he') heq

end Entity

/-! ### Entities take the identifiers of their labels -/

/-- The identifier that is given or handed out, and that writing the attributes gives again. -/
theorem Reading.idOr_ok {names : List Attribute.Name} (hid : Attribute.Name.id ∈ names)
    {entries : Table Data} {word id : Text} {n n' : Nat}
    (h : Reading.idOr (attributes names entries) word n = .ok (id, n')) :
    [id] = Label.ids n [.ofEntries entries word] ∧
      n' = n + (Label.words [.ofEntries entries word]).length ∧
      ∀ e ∈ attributes names entries, e.1 = Attribute.Name.id.key → e.2.toText = id := by
  obtain ⟨hnodup, hget⟩ := attributes_id hid entries
  have hkeep : ∀ e ∈ attributes names entries, e.1 = Attribute.Name.id.key →
      givenId? entries = some e.2 := by
    intro e he heq
    rw [← hget, ← heq]
    exact Table.get?_of_mem hnodup he
  unfold idOr at h
  rw [hget] at h
  rw [Label.ofEntries]
  cases hgiven : givenId? entries with
  | none =>
      rw [hgiven] at h
      obtain ⟨hmade, hissued⟩ := freshId_ok h
      refine ⟨hmade, hissued, fun e he heq => ?_⟩
      have hsome := hkeep e he heq
      rw [hgiven] at hsome
      exact nomatch hsome
  | some d =>
      rw [hgiven] at h
      obtain ⟨rfl, rfl⟩ := pure_ok h
      refine ⟨rfl, rfl, fun e he heq => ?_⟩
      have hsome := hkeep e he heq
      rw [hgiven] at hsome
      rw [Option.some.inj hsome]

namespace Part

theorem label_eq {d : Data} {kind : Kind} (hkind : kindOf d.entries = .ok kind) {given : Table Data}
    (hgiven : given.get? Attribute.Name.id.key = givenId? d.entries) :
    label d = match givenText? given .id with
      | none | some [] => .made kind.name
      | some id => .given id := by
  rw [label, givenText?, hgiven, hkind]
  cases givenId? d.entries with
  | none => rfl
  | some d =>
      -- nothing and the empty text are the same here
      cases d with
      | value v => cases v <;> rfl
      | list items => rfl
      | mapping entries => rfl

/-- The attributes that a definition gives an object of a kind. -/
def given (kind : Kind) (d : Data) : Table Data :=
  Reading.attributes (Attribute.Name.ofKind kind) (d.entries.remove "rect")

theorem given_nodup (kind : Kind) (d : Data) : (given kind d).names.Nodup :=
  (Reading.attributes_id List.mem_cons_self _).1

theorem given_get? {kind : Kind} {n : Attribute.Name} (hn : n ∈ Attribute.Name.ofKind kind)
    (hrect : n ≠ .rect) (d : Data) : (given kind d).get? n.key = n.given? d.entries := by
  have hobjects : n ≠ .objects := by
    rintro rfl
    revert hn
    cases kind <;> decide
  obtain ⟨-, hget⟩ := Reading.attributes_get? hn hobjects (d.entries.remove "rect")
  rw [given, hget]
  exact n.given?_remove _ fun h => hrect (Attribute.Name.key_injective h.symm)

/-- The name that is given to an object, unless it is empty. -/
def nameOr (kind : Kind) (given : Table Data) : Text :=
  match givenText? given .name with
  | none | some [] => ("New " : Text) ++ kind.title
  | some name => name

/-- An object with its own identifier, name and place, and nothing else that is given. -/
def bare (layer : Text) (kind : Kind) (id name : Text) (rect : Rect) : Part :=
  { id, name, rect, visible := true, script := [], layer, rotation := 0, body := .usual kind }

theorem bare_kind (layer : Text) (kind : Kind) (id name : Text) (rect : Rect) :
    (bare layer kind id name rect).kind = kind := by
  cases kind <;> rfl

/-- The attributes that are written into an object; its name stands for a missing title. -/
def toWrite (name : Text) (given : Table Data) : Table Data :=
  let given := (given.remove Attribute.Name.id.key).remove Attribute.Name.name.key
  match givenText? given .title with
  | none => given.put Attribute.Name.title.key (.value (.text name))
  | some _ => given

section

variable {given : Table Data} {name : Text}

theorem toWrite_nodup (h : given.names.Nodup) : (toWrite name given).names.Nodup := by
  have hremoved := Table.names_remove_nodup (Table.names_remove_nodup h Attribute.Name.id.key)
    Attribute.Name.name.key
  unfold toWrite
  dsimp only
  split
  · exact Table.names_put_nodup hremoved _ _
  · exact hremoved

theorem toWrite_get? {n : Attribute.Name} (h : n ≠ .title) :
    (toWrite name given).get? n.key =
      if n = .id ∨ n = .name then none else given.get? n.key := by
  have hput : (toWrite name given).get? n.key =
      ((given.remove Attribute.Name.id.key).remove Attribute.Name.name.key).get? n.key := by
    unfold toWrite
    dsimp only
    split
    · rw [Table.get?_put, if_neg fun heq => h (Attribute.Name.key_injective heq)]
    · rfl
  rw [hput]
  by_cases hname : n = .name
  · rw [if_pos (.inr hname), hname, Table.get?_remove_self]
  · rw [Table.get?_remove _ fun heq => hname (Attribute.Name.key_injective heq)]
    by_cases hid : n = .id
    · rw [if_pos (.inl hid), hid, Table.get?_remove_self]
    · rw [Table.get?_remove _ fun heq => hid (Attribute.Name.key_injective heq),
        if_neg fun hor => hor.elim hid hname]

/-- A button is written the title that is given, or else its name. -/
theorem toWrite_title (usual : Text) :
    (Attribute.text usual).orGiven ((toWrite name given).get? Attribute.Name.title.key) =
      .text ((givenText? given .title).getD name) := by
  have hremoved : ((given.remove Attribute.Name.id.key).remove Attribute.Name.name.key).get?
      Attribute.Name.title.key = given.get? Attribute.Name.title.key := by
    rw [Table.get?_remove _ (by decide), Table.get?_remove _ (by decide)]
  unfold toWrite
  dsimp only
  rw [givenText?, givenText?, hremoved]
  cases hgiven : given.get? Attribute.Name.title.key with
  | none => rw [Table.get?_put, if_pos rfl]; rfl
  | some d =>
      match d with
      | .value .null => rw [Table.get?_put, if_pos rfl]; rfl
      | .value (.logical _) | .value (.int _) | .value (.float _) | .value (.text _) | .list _
      | .mapping _ =>
          dsimp only
          rw [hremoved, hgiven]
          rfl

end

theorem writeGiven_part (p : Part) (name : Text) (d : Data) :
    ∃ q, (Entity.part p).writeGiven name d = .part q ∧ q.kind = p.kind := by
  rw [Entity.writeGiven]
  split
  · exact ⟨p, rfl, rfl⟩
  · split
    · exact ⟨p, rfl, rfl⟩
    · exact ⟨_, rfl, p.kind_write ..⟩

/-- Writing attributes into an object gives an object of the same kind. -/
theorem writeAll_part (p : Part) (given : Table Data) :
    ∃ q, (Entity.part p).writeAll given = .part q ∧ q.kind = p.kind := by
  rw [Entity.writeAll]
  induction given generalizing p with
  | nil => exact ⟨p, rfl, rfl⟩
  | cons e given ih =>
      obtain ⟨q, hq, hkind⟩ := p.writeGiven_part e.1 e.2
      obtain ⟨r, hr, hkind'⟩ := ih q
      exact ⟨r, by rw [List.foldl_cons, hq, hr], hkind'.trans hkind⟩

/-- An object stays of its kind when attributes are written, and has each of them. -/
theorem written {bare p : Part} {given : Table Data} (hgiven : given.names.Nodup) {n n' : Nat}
    (h : (match (Entity.part bare).writeAll given with
      | .part p => pure p
      | _ => pure bare : Reading Part) n = .ok (p, n')) :
    n' = n ∧ p.kind = bare.kind ∧
      ∀ m, p.read m = (bare.read m).map (·.orGiven (given.get? m.key)) := by
  have hread := (Entity.part bare).read_writeAll hgiven
  obtain ⟨q, hq, hkind⟩ := writeAll_part bare given
  rw [hq] at h hread
  obtain ⟨rfl, rfl⟩ := Reading.pure_ok h
  exact ⟨rfl, hkind, hread⟩

/-- An object has the identifier of its label and the attributes that are given for its kind. -/
theorem ofData_ok {layer : Text} {d : Data} {p : Part} {n n' : Nat}
    (h : ofData layer d n = .ok (p, n')) :
    kindOf d.entries = .ok p.kind ∧ ∃ id, [id] = Label.ids n [label d] ∧
      n' = n + (Label.words [label d]).length ∧
      let name := nameOr p.kind (given p.kind d)
      let bare := bare layer p.kind id name (rectOf p.kind (d.get? "rect"))
      ∀ m, p.read m =
        (bare.read m).map (·.orGiven ((toWrite name (given p.kind d)).get? m.key)) := by
  unfold ofData at h
  obtain ⟨kind, n₁, hlift, hread⟩ := Reading.bind_ok h
  obtain ⟨hkind, rfl⟩ := Reading.lift_ok hlift
  have hget : (given kind d).get? Attribute.Name.id.key = Attribute.Name.id.given? d.entries :=
    given_get? List.mem_cons_self nofun d
  have hnodup : (toWrite (nameOr kind (given kind d)) (given kind d)).names.Nodup :=
    toWrite_nodup (given_nodup kind d)
  rw [label_eq hkind hget]
  dsimp only at hread ⊢
  generalize htext : givenText? (given kind d) .id = text?
  rw [← given, htext] at hread
  match text? with
  | none | some [] =>
      obtain ⟨id, n₂, hfresh, hrest⟩ := Reading.bind_ok hread
      obtain ⟨hid, hissued⟩ := Reading.freshId_ok hfresh
      obtain ⟨rfl, hsame, hp⟩ := written hnodup hrest
      obtain rfl : p.kind = kind := hsame.trans (bare_kind ..)
      exact ⟨hkind, id, hid, hissued, hp⟩
  | some (c :: t) =>
      obtain ⟨id, n₂, hpure, hrest⟩ := Reading.bind_ok hread
      obtain ⟨rfl, rfl⟩ := Reading.pure_ok hpure
      obtain ⟨rfl, hsame, hp⟩ := written hnodup hrest
      obtain rfl : p.kind = kind := hsame.trans (bare_kind ..)
      exact ⟨hkind, _, rfl, rfl, hp⟩

theorem ofData_takes (layer : Text) (d : Data) :
    (ofData layer d).Takes [label d] fun p => [p.id] := by
  intro n p n' h
  obtain ⟨-, id, hid, hissued, hread⟩ := ofData_ok h
  have hp := hread .id
  rw [toWrite_get? (n := .id) nofun, if_pos (.inl rfl)] at hp
  have heq : p.id = id := Attribute.text.inj (Option.some.inj hp)
  exact ⟨(congrArg (fun id => [id]) heq).trans hid, hissued⟩

/-- The objects of a card or background are read in their order. -/
theorem listOfData_ok {layer : Text} {entries : Table Data} {parts : List Part} {n n' : Nat}
    (h : listOfData layer entries n = .ok (parts, n')) :
    (itemsOf entries "objects").mapM (ofData layer) n = .ok (parts, n') := by
  unfold listOfData at h
  obtain ⟨items, n₁, hitems, hread⟩ := Reading.bind_ok h
  have hlisted : itemsOf entries "objects" = items ∧ n₁ = n := by
    unfold itemsOf
    cases hobjects : entries.get? "objects" with
    | none =>
        rw [hobjects] at hitems
        obtain ⟨rfl, rfl⟩ := Reading.pure_ok hitems
        exact ⟨rfl, rfl⟩
    | some d =>
        rw [hobjects] at hitems
        obtain ⟨hok, rfl⟩ := Reading.lift_ok hitems
        refine ⟨?_, rfl⟩
        rw [Option.bind_some, hok]
        rfl
  obtain ⟨rfl, rfl⟩ := hlisted
  exact hread

theorem listOfData_takes (layer : Text) (entries : Table Data) :
    (listOfData layer entries).Takes (labels entries) (List.map Part.id) := by
  intro n parts n' h
  obtain ⟨hids, hissued, -⟩ := Reading.takes_mapM (ofData_takes layer) (listOfData_ok h)
  rw [← List.map_eq_flatMap, ← List.map_eq_flatMap] at hids
  rw [← List.map_eq_flatMap] at hissued
  exact ⟨hids, hissued⟩

end Part

theorem Background.ofData_takes (d : Data) :
    (Background.ofData d).Takes (Background.labels d) Background.ids := by
  intro n b n' h
  unfold Background.ofData at h
  obtain ⟨parts, n₁, hparts, hread⟩ := Reading.bind_ok h
  obtain ⟨hpartIds, rfl⟩ := Part.listOfData_takes _ _ hparts
  obtain ⟨id, n₂, hidOr, hwritten⟩ := Reading.bind_ok hread
  have hmem : Attribute.Name.id ∈ Attribute.Name.ofBackground := List.mem_cons_self
  obtain ⟨hid, rfl, hkeep⟩ := Reading.idOr_ok hmem hidOr
  have hsame := Entity.sameId_writeAll (.background (usual id)) _ hkeep
  generalize (Entity.background (usual id)).writeAll _ = x at hwritten hsame
  cases hsame with
  | background hb =>
      obtain ⟨rfl, rfl⟩ := Reading.pure_ok hwritten
      refine ⟨?_, ?_⟩
      · rw [Background.labels, Label.ids_append, ← hpartIds, ← hid, Background.ids, hb]
        rfl
      · rw [Background.labels, Label.words_append, List.length_append, Nat.add_assoc]

namespace Card

/-- Naming the background by its identifier changes neither the given identifier nor the objects. -/
theorem labels_resolveBackground (backgrounds : List Background) (entries : Table Data) :
    givenId? (resolveBackground backgrounds entries) = givenId? entries ∧
      Part.labels (resolveBackground backgrounds entries) = Part.labels entries := by
  unfold resolveBackground
  split
  · exact ⟨rfl, rfl⟩
  · refine ⟨?_, ?_⟩
    · rw [givenId?_put _ (by decide), givenId?_remove _ (by decide)]
    · rw [Part.labels, itemsOf, Table.get?_put, if_neg (by decide),
        Table.get?_remove _ (by decide)]
      rfl

theorem ofData_takes (backgrounds : List Background) (d : Data) :
    (ofData backgrounds d).Takes (labels d) ids := by
  intro n c n' h
  unfold ofData at h
  obtain ⟨hgiven, hlabels⟩ := labels_resolveBackground backgrounds d.entries
  dsimp only at h
  obtain ⟨parts, n₁, hparts, hread⟩ := Reading.bind_ok h
  obtain ⟨hpartIds, rfl⟩ := Part.listOfData_takes _ _ hparts
  obtain ⟨id, n₂, hidOr, hwritten⟩ := Reading.bind_ok hread
  have hmem : Attribute.Name.id ∈ Attribute.Name.ofCard := List.mem_cons_self
  obtain ⟨hid, rfl, hkeep⟩ := Reading.idOr_ok hmem hidOr
  have hsame := Entity.sameId_writeAll (.card (usual id "Untitled Card")) _ hkeep
  have hlabel : Label.ofEntries (resolveBackground backgrounds d.entries) "card" =
      Label.ofEntries d.entries "card" := by
    rw [Label.ofEntries, hgiven, Label.ofEntries]
  rw [hlabels, hlabel] at hid
  rw [hlabels] at hpartIds
  generalize (Entity.card (usual id "Untitled Card")).writeAll _ = x at hwritten hsame
  cases hsame with
  | card hc =>
      obtain ⟨rfl, rfl⟩ := Reading.pure_ok hwritten
      refine ⟨?_, ?_⟩
      · rw [labels, Label.ids_append, ← hpartIds, ← hid, ids, hc]
        rfl
      · rw [labels, Label.words_append, List.length_append, hlabels, hlabel, Nat.add_assoc]

end Card

theorem Stack.ofData_takes (d : Data) :
    (Stack.ofData d).Takes [.ofEntries d.entries "stack"] fun s => [s.id] := by
  intro n s n' h
  unfold Stack.ofData at h
  dsimp only at h
  obtain ⟨id, n₂, hidOr, hread⟩ := Reading.bind_ok h
  have hmem : Attribute.Name.id ∈ Attribute.Name.ofStack := List.mem_cons_self
  obtain ⟨hid, rfl, hkeep⟩ := Reading.idOr_ok hmem hidOr
  have hsame := Entity.sameId_writeAll (.stack (usual id)) _ hkeep
  generalize (Entity.stack (usual id)).writeAll _ = x at hread hsame
  cases hsame with
  | stack hs =>
      rw [← hid]
      generalize sizeOf? d.entries = size? at hread
      match size? with
      | none =>
          obtain ⟨rfl, rfl⟩ := Reading.pure_ok hread
          exact ⟨congrArg (fun id => [id]) hs, rfl⟩
      | some size =>
          obtain ⟨width, n₃, hwidth, hrest⟩ := Reading.bind_ok hread
          obtain ⟨-, rfl⟩ := Reading.lift_ok hwidth
          obtain ⟨height, n₄, hheight, hsized⟩ := Reading.bind_ok hrest
          obtain ⟨-, rfl⟩ := Reading.lift_ok hheight
          obtain ⟨rfl, rfl⟩ := Reading.pure_ok hsized
          exact ⟨congrArg (fun id => [id]) hs, rfl⟩

end CardTalk
