/-
What a scene holds of the definition it is read from.

Each object, background and card stands for the mapping at its place in the definition: it has
the identifier of its label and, attribute by attribute, what the mapping gives or else what is
usual (`Part.IsOf`, `Background.IsOf`, `Card.IsOf`).  Of backgrounds that have the same identifier
the one that is read last stays, at the place of the first.

A card lies on the background that its definition names by identifier or by name.  The identifier
of that background is put where the definition gives one already, and another spelling of the
attribute behind that place overrides it (`Card.backgroundId?`).
-/
import CardTalk.Proofs.Scene.Distinct
import Mathlib.Data.List.Induction

namespace CardTalk

/-- The text that a definition gives for an attribute, if it gives anything but nothing. -/
def Attribute.Name.text? (n : Attribute.Name) (entries : Table Data) : Option Text :=
  match n.given? entries with
  | none | some (.value .null) => none
  | some d => some d.toText

/-! ### Objects -/

namespace Part

/-- The name of an object: the one that is given unless it is empty. -/
def nameOf (d : Data) (k : Kind) : Text :=
  match Attribute.Name.name.text? d.entries with
  | none | some [] => ("New " : Text) ++ k.title
  | some name => name

/-- An object is the one that a definition describes. -/
structure IsOf (layer : Text) (d : Data) (p : Part) : Prop where
  kind : kindOf d.entries = .ok p.kind
  id : ∃ issued, [p.id] = Label.ids issued [label d]
  name : p.name = nameOf d p.kind
  rect : p.rect = rectOf p.kind (d.get? "rect")
  title : p.kind = .button →
    p.read .title = some (.text ((Attribute.Name.title.text? d.entries).getD p.name))
  /-- Everything else holds what is given, or else what is usual. -/
  others : ∀ n ∈ Attribute.Name.ofKind p.kind, n ∉ [.id, .name, .rect, .title] →
    p.read n = ((bare layer p.kind p.id p.name p.rect).read n).map
      (·.orGiven (n.given? d.entries))

theorem givenText?_given {kind : Kind} {n : Attribute.Name} (hn : n ∈ Attribute.Name.ofKind kind)
    (hrect : n ≠ .rect) (d : Data) : givenText? (given kind d) n = n.text? d.entries := by
  rw [givenText?, given_get? hn hrect]
  rfl

theorem nameOr_given (kind : Kind) (d : Data) : nameOr kind (given kind d) = nameOf d kind := by
  rw [nameOr, givenText?_given (n := .name) (by simp [Attribute.Name.ofKind]) nofun]
  rfl

theorem ofData_isOf {layer : Text} {d : Data} {p : Part} {n n' : Nat}
    (h : ofData layer d n = .ok (p, n')) : p.IsOf layer d := by
  obtain ⟨hkind, id, hid, -, hread⟩ := ofData_ok h
  rw [nameOr_given] at hread
  generalize hkind' : p.kind = kind at hkind hread
  dsimp only at hread
  have heq : p.id = id := by
    have hp := hread .id
    rw [toWrite_get? (n := .id) nofun, if_pos (.inl rfl)] at hp
    exact Attribute.text.inj (Option.some.inj hp)
  have hname : p.name = nameOf d kind := by
    have hp := hread .name
    rw [toWrite_get? (n := .name) nofun, if_pos (.inr rfl)] at hp
    exact Attribute.text.inj (Option.some.inj hp)
  have hrect : p.rect = rectOf kind (d.get? "rect") := by
    have hp := hread .rect
    -- a place is not written, whatever is given
    generalize Table.get? _ _ = r at hp
    cases r with
    | none => exact Attribute.rect.inj (Option.some.inj hp)
    | some d => cases d <;> exact Attribute.rect.inj (Option.some.inj hp)
  refine
    { kind := hkind'.symm ▸ hkind
      id := ⟨n, heq ▸ hid⟩
      name := hkind'.symm ▸ hname
      rect := hkind'.symm ▸ hrect
      title := fun hbutton => ?_
      others := fun n hn hnot => ?_ }
  · obtain rfl : kind = .button := hkind'.symm.trans hbutton
    have htitle : (Attribute.text []).orGiven
        ((toWrite (nameOf d .button) (given .button d)).get? Attribute.Name.title.key) =
          .text ((givenText? (given .button d) .title).getD (nameOf d .button)) :=
      toWrite_title []
    rw [givenText?_given (n := .title) (by decide) nofun, ← hname] at htitle
    rw [← hname] at hread
    exact (hread .title).trans (congrArg some htitle)
  · rw [hkind'] at hn
    simp only [List.mem_cons, List.not_mem_nil, or_false, not_or] at hnot
    obtain ⟨hnid, hnname, hnrect, hntitle⟩ := hnot
    have hp := hread n
    rw [toWrite_get? hntitle, if_neg fun hor => hor.elim hnid hnname, given_get? hn hnrect] at hp
    rw [hp, heq, hname, hrect, hkind']

/-- The objects of a card or background are those of its definition, in their order. -/
theorem listOfData_isOf {layer : Text} {entries : Table Data} {parts : List Part} {n n' : Nat}
    (h : listOfData layer entries n = .ok (parts, n')) :
    List.Forall₂ (IsOf layer) (itemsOf entries "objects") parts := by
  obtain ⟨-, -, hread⟩ := Reading.takes_mapM (ofData_takes layer) (listOfData_ok h)
  exact hread.imp fun d p ⟨m, m', hp⟩ => ofData_isOf hp

end Part

/-! ### Backgrounds -/

namespace Background

/-- A background is the one that a definition describes. -/
structure IsOf (d : Data) (b : Background) : Prop where
  id : ∃ issued, [b.id] = Label.ids issued [.ofEntries d.entries "bg"]
  parts : List.Forall₂ (Part.IsOf "background") (itemsOf d.entries "objects") b.parts
  /-- Everything else holds what is given, or else what is usual. -/
  others : ∀ n ∈ Attribute.Name.ofBackground, n ∉ [.id, .objects] →
    b.read n = ((usual b.id).read n).map (·.orGiven (n.given? d.entries))

theorem read_parts (b : Background) {n : Attribute.Name} (h : n ≠ .objects) (parts : List Part) :
    ({ b with parts } : Background).read n = b.read n := by
  cases n <;> first | rfl | exact absurd rfl h

theorem ofData_isOf {d : Data} {b : Background} {n n' : Nat}
    (h : ofData d n = .ok (b, n')) : IsOf d b := by
  unfold ofData at h
  obtain ⟨parts, n₁, hparts, hread⟩ := Reading.bind_ok h
  obtain ⟨id, n₂, hidOr, hwritten⟩ := Reading.bind_ok hread
  have hmem : Attribute.Name.id ∈ Attribute.Name.ofBackground := List.mem_cons_self
  obtain ⟨hid, rfl, hkeep⟩ := Reading.idOr_ok hmem hidOr
  obtain ⟨hnodup, -⟩ := Reading.attributes_id hmem d.entries
  have hsame := Entity.sameId_writeAll (.background (usual id)) _ hkeep
  have hall := (Entity.background (usual id)).read_writeAll hnodup
  generalize (Entity.background (usual id)).writeAll _ = x at hwritten hsame hall
  cases hsame with
  | @background _ b' hb =>
      obtain ⟨rfl, rfl⟩ := Reading.pure_ok hwritten
      obtain rfl : b'.id = id := hb
      refine { id := ⟨_, hid⟩, parts := Part.listOfData_isOf hparts, others := ?_ }
      intro n hn hnot
      simp only [List.mem_cons, List.not_mem_nil, or_false, not_or] at hnot
      obtain ⟨-, hget⟩ := Reading.attributes_get? hn hnot.2 d.entries
      rw [read_parts b' hnot.2, ← hget]
      exact hall n

/-- The identifier of a background is not empty if none is given that is. -/
theorem IsOf.id_ne_nil {d : Data} {b : Background} (h : IsOf d b)
    (hids : ∀ id, givenId? d.entries = some id → id.toText ≠ []) : b.id ≠ [] := by
  obtain ⟨issued, hid⟩ := h.id
  rw [Label.ofEntries] at hid
  cases hgiven : givenId? d.entries with
  | none =>
      rw [hgiven] at hid
      rw [(List.cons.inj hid).1]
      exact Identifier.make_ne_nil _ _
  | some id =>
      rw [hgiven] at hid
      rw [(List.cons.inj hid).1]
      exact hids id hgiven

theorem id_ne_nil_of_forall {ds : List Data} {bs : List Background}
    (h : List.Forall₂ IsOf ds bs)
    (hids : ∀ d ∈ ds, ∀ id, givenId? d.entries = some id → id.toText ≠ []) :
    ∀ b ∈ bs, b.id ≠ [] := by
  induction h with
  | nil => exact nofun
  | cons hfirst _ ih =>
      obtain ⟨hid, hrest⟩ := List.forall_mem_cons.mp hids
      exact List.forall_mem_cons.mpr ⟨hfirst.id_ne_nil hid, ih hrest⟩

theorem any_id {bs : List Background} {t : Text} :
    bs.any (·.id == t) ↔ t ∈ bs.map id := by
  rw [List.any_eq_true, List.mem_map]
  exact exists_congr fun b => and_congr_right fun _ => beq_iff_eq

/-- Looking for an identifier finds it if it is there. -/
theorem find?_id (bs : List Background) (t : Text) :
    (bs.find? (·.id == t)).map id = if t ∈ bs.map id then some t else none := by
  cases hfound : bs.find? (·.id == t) with
  | none =>
      have hnone : t ∉ bs.map id := by
        rw [List.mem_map]
        rintro ⟨b, hb, hid⟩
        exact List.find?_eq_none.mp hfound b hb (beq_iff_eq.mpr hid)
      rw [if_neg hnone, Option.map_none]
  | some b =>
      have hsame := List.find?_some hfound
      have hid : b.id = t := beq_iff_eq.mp hsame
      rw [if_pos (hid ▸ List.mem_map_of_mem (List.mem_of_find?_eq_some hfound)), Option.map_some,
        hid]

theorem ids_insert (b : Background) (bs : List Background) :
    (b.insert bs).map id = if b.id ∈ bs.map id then bs.map id else bs.map id ++ [b.id] := by
  by_cases h : b.id ∈ bs.map id
  · rw [if_pos h]
    induction bs with
    | nil => exact nomatch h
    | cons other bs ih =>
        rw [insert]
        split
        · rename_i heq
          rw [List.map_cons, List.map_cons, heq]
        · rename_i hne
          rw [List.map_cons, List.map_cons,
            ih ((List.mem_cons.mp h).resolve_left fun heq => hne heq.symm)]
  · rw [if_neg h, insert_of_notMem h, List.map_append, List.map_singleton]

theorem mem_insert {b c : Background} {bs : List Background} (hbs : (bs.map id).Nodup)
    (h : c ∈ b.insert bs) : c = b ∨ c ∈ bs ∧ b.id ≠ c.id := by
  induction bs with
  | nil => exact .inl (List.mem_singleton.mp h)
  | cons other bs ih =>
      obtain ⟨hother, hrest⟩ := List.nodup_cons.mp hbs
      rw [insert] at h
      split at h
      · rename_i heq
        refine (List.mem_cons.mp h).imp_right fun hc => ⟨List.mem_cons_of_mem _ hc, ?_⟩
        rintro hid
        exact hother (heq.trans hid ▸ List.mem_map_of_mem hc)
      · rename_i hne
        rcases List.mem_cons.mp h with rfl | hc
        · exact .inr ⟨List.mem_cons_self, fun heq => hne heq.symm⟩
        · exact (ih hrest hc).imp_right fun h => ⟨List.mem_cons_of_mem _ h.1, h.2⟩

/-- Of all backgrounds those that stay: for each identifier one, at the place where it first
came, the last that has it. -/
structure Stay (all bs : List Background) : Prop where
  ids : bs.map id = (all.map id).eraseDups
  nodup : (bs.map id).Nodup
  last : ∀ b ∈ bs, all.reverse.find? (·.id == b.id) = some b

theorem stay_insertAll (all : List Background) : Stay all (insertAll [] all) := by
  induction all using List.reverseRecOn with
  | nil => exact ⟨rfl, List.nodup_nil, nofun⟩
  | append_singleton all b ih =>
      have hids := ids_insert b (insertAll [] all)
      have hmem : b.id ∈ (insertAll [] all).map id ↔ b.id ∈ all.map id := by
        rw [ih.ids, List.mem_eraseDups]
      rw [insertAll, List.foldl_append, ← insertAll]
      change Stay _ (b.insert (insertAll [] all))
      refine ⟨?_, ?_, ?_⟩
      · rw [hids, List.map_append, List.map_singleton, List.eraseDups_append, ← ih.ids]
        by_cases h : b.id ∈ all.map id
        · rw [if_pos (hmem.mpr h), List.removeAll, List.filter_cons_of_neg (by simpa using h)]
          exact (List.append_nil _).symm
        · rw [if_neg fun hin => h (hmem.mp hin), List.removeAll,
            List.filter_cons_of_pos (by simpa using h)]
          rfl
      · rw [hids]
        split
        · exact ih.nodup
        · rename_i hnot
          rw [← List.concat_eq_append]
          exact .concat hnot ih.nodup
      · intro c hc
        rw [List.reverse_append, List.reverse_singleton, List.singleton_append]
        rcases mem_insert ih.nodup hc with rfl | ⟨hc, hne⟩
        · exact List.find?_cons_of_pos (beq_self_eq_true _)
        · rw [List.find?_cons_of_neg (by simpa using hne)]
          exact ih.last c hc

end Background

/-! ### Cards -/

namespace Card

/-- The first background with an identifier, or else the first with that name. -/
def named? (backgrounds : List Background) (ref : Text) : Option Background :=
  (backgrounds.find? (·.id == ref)).or (backgrounds.find? (·.name == ref))

/-- The identifier of a background that a card's definition gives where it counts: if the
definition names a background, that is behind the entry in which the identifier of the named one
is put. -/
def backgroundId? (entries : Table Data) : Option Data :=
  Attribute.Name.backgroundId.given?
    (if entries.has "background" then entries.behind Attribute.Name.backgroundId.key else entries)

/-- The background that a card's definition means: the one whose identifier it gives, or else the
one that it names. -/
def meant? (backgrounds : List Background) (entries : Table Data) : Option Background :=
  match backgroundId? entries with
  | some id => backgrounds.find? (·.id == id.toText)
  | none => (entries.get? "background").bind fun ref => named? backgrounds ref.shown

/-- The background that a card lies on: the one that its definition means, or else the first. -/
def below? (backgrounds : List Background) (entries : Table Data) : Option Background :=
  (meant? backgrounds entries).or backgrounds.head?

/-- A card is the one that a definition describes. -/
structure IsOf (backgrounds : List Background) (d : Data) (c : Card) : Prop where
  id : ∃ issued, [c.id] = Label.ids issued [.ofEntries d.entries "card"]
  parts : List.Forall₂ (Part.IsOf "card") (itemsOf d.entries "objects") c.parts
  /-- Everything else holds what is given, or else what is usual. -/
  others : ∀ n ∈ Attribute.Name.ofCard, n ∉ [.id, .backgroundId, .objects] →
    c.read n = ((usual c.id "Untitled Card").read n).map (·.orGiven (n.given? d.entries))
  lies : (below? backgrounds d.entries).map Background.id = some c.backgroundId

theorem read_parts (c : Card) {n : Attribute.Name} (h : n ≠ .objects) (parts : List Part) :
    ({ c with parts } : Card).read n = c.read n := by
  cases n <;> first | rfl | exact absurd rfl h

theorem itemsOf_resolveBackground (backgrounds : List Background) (entries : Table Data) :
    itemsOf (resolveBackground backgrounds entries) "objects" = itemsOf entries "objects" := by
  unfold resolveBackground
  split
  · rfl
  · rw [itemsOf, Table.get?_put, if_neg (by decide), Table.get?_remove _ (by decide)]
    rfl

theorem given?_resolveBackground {n : Attribute.Name} (h : n ≠ .backgroundId)
    (backgrounds : List Background) (entries : Table Data) :
    n.given? (resolveBackground backgrounds entries) = n.given? entries := by
  unfold resolveBackground
  split
  · rfl
  · rw [n.given?_put _ fun heq => h (Attribute.Name.key_injective (heq.symm.trans (by decide))),
      n.given?_remove]
    cases n <;> decide

theorem ofData_ok {backgrounds : List Background} {d : Data} {c : Card} {n n' : Nat}
    (h : ofData backgrounds d n = .ok (c, n')) :
    (∃ issued, [c.id] = Label.ids issued [.ofEntries d.entries "card"]) ∧
    List.Forall₂ (Part.IsOf "card") (itemsOf d.entries "objects") c.parts ∧
    ∀ n ∈ Attribute.Name.ofCard, n ≠ .objects →
      c.read n = ((usual c.id "Untitled Card").read n).map
        (·.orGiven (n.given? (resolveBackground backgrounds d.entries))) := by
  unfold ofData at h
  dsimp only at h
  obtain ⟨parts, n₁, hparts, hread⟩ := Reading.bind_ok h
  obtain ⟨id, n₂, hidOr, hwritten⟩ := Reading.bind_ok hread
  have hmem : Attribute.Name.id ∈ Attribute.Name.ofCard := List.mem_cons_self
  obtain ⟨hid, rfl, hkeep⟩ := Reading.idOr_ok hmem hidOr
  obtain ⟨hnodup, -⟩ := Reading.attributes_id hmem (resolveBackground backgrounds d.entries)
  have hsame := Entity.sameId_writeAll (.card (usual id "Untitled Card")) _ hkeep
  have hall := (Entity.card (usual id "Untitled Card")).read_writeAll hnodup
  generalize (Entity.card (usual id "Untitled Card")).writeAll _ = x at hwritten hsame hall
  have hobjects := Part.listOfData_isOf hparts
  rw [itemsOf_resolveBackground] at hobjects
  have hlabel : Label.ofEntries (resolveBackground backgrounds d.entries) "card" =
      Label.ofEntries d.entries "card" := by
    rw [Label.ofEntries, (labels_resolveBackground backgrounds d.entries).1, Label.ofEntries]
  rw [hlabel] at hid
  cases hsame with
  | @card _ c' hc =>
      obtain ⟨rfl, rfl⟩ := Reading.pure_ok hwritten
      obtain rfl : c'.id = id := hc
      refine ⟨⟨_, hid⟩, hobjects, fun n hn hnot => ?_⟩
      obtain ⟨-, hget⟩ :=
        Reading.attributes_get? hn hnot (resolveBackground backgrounds d.entries)
      rw [read_parts c' hnot, ← hget]
      exact hall n

/-- The card on the background whose identifier it has, or else on the first. -/
def layOn (backgrounds : List Background) (c : Card) : Card :=
  if backgrounds.any (·.id == c.backgroundId) then c
  else { c with backgroundId := (backgrounds.head?.map Background.id).getD [] }

theorem layOn_backgroundId {backgrounds : List Background} (h : backgrounds ≠ []) (c : Card) :
    ((backgrounds.find? (·.id == c.backgroundId)).or backgrounds.head?).map Background.id =
      some (c.layOn backgrounds).backgroundId := by
  obtain ⟨first, rest, rfl⟩ := List.exists_cons_of_ne_nil h
  rw [layOn, Option.map_or, Background.find?_id]
  by_cases hmem : c.backgroundId ∈ (first :: rest).map Background.id
  · rw [if_pos hmem, if_pos (Background.any_id.mpr hmem)]
    rfl
  · rw [if_neg hmem, if_neg fun hany => hmem (Background.any_id.mp hany)]
    rfl

theorem layOn_eq (backgrounds : List Background) (c : Card) :
    ∃ backgroundId, c.layOn backgrounds = { c with backgroundId } := by
  unfold layOn
  split
  · exact ⟨_, rfl⟩
  · exact ⟨_, rfl⟩

theorem mem_of_named? {backgrounds : List Background} {ref : Text} {b : Background}
    (h : named? backgrounds ref = some b) : b ∈ backgrounds := by
  rcases Option.or_eq_some_iff.mp h with hid | ⟨-, hname⟩
  · exact List.mem_of_find?_eq_some hid
  · exact List.mem_of_find?_eq_some hname

theorem exists_below {backgrounds : List Background} (h : backgrounds ≠ [])
    (entries : Table Data) : ∃ b ∈ backgrounds, below? backgrounds entries = some b := by
  obtain ⟨first, rest, rfl⟩ := List.exists_cons_of_ne_nil h
  obtain ⟨b, hb⟩ : ∃ b, below? (first :: rest) entries = some b :=
    Option.isSome_iff_exists.mp (by simp [below?])
  refine ⟨b, ?_, hb⟩
  rcases Option.or_eq_some_iff.mp hb with hmeant | ⟨-, hfirst⟩
  · unfold meant? at hmeant
    split at hmeant
    · exact List.mem_of_find?_eq_some hmeant
    · obtain ⟨ref, -, hnamed⟩ := Option.bind_eq_some_iff.mp hmeant
      exact mem_of_named? hnamed
  · obtain rfl := Option.some.inj hfirst
    exact List.mem_cons_self

/-- What is given for the background's identifier, once the background has been looked up. -/
theorem given?_background (backgrounds : List Background) (entries : Table Data) :
    Attribute.Name.backgroundId.given? (resolveBackground backgrounds entries) =
      (backgroundId? entries).or ((entries.get? "background").map fun ref =>
        .value (.text (backgroundRef backgrounds ref.shown))) := by
  rw [resolveBackground, backgroundId?, Table.has]
  cases entries.get? "background" with
  | none => exact (Option.or_none ..).symm
  | some ref =>
      dsimp only
      rw [Attribute.Name.given?_put_self _ (by decide),
        Attribute.Name.given?_behind_remove _ _ (by decide) (by decide)]
      rfl

/-- The identifier of the background with which a card is read. -/
theorem ofData_backgroundId {backgrounds : List Background} {d : Data} {c : Card} {n n' : Nat}
    (h : ofData backgrounds d n = .ok (c, n')) :
    c.backgroundId = (((backgroundId? d.entries).or ((d.entries.get? "background").map fun ref =>
      .value (.text (backgroundRef backgrounds ref.shown)))).map Data.toText).getD [] := by
  obtain ⟨-, -, hread⟩ := ofData_ok h
  have hp := hread .backgroundId (by decide) nofun
  rw [given?_background] at hp
  generalize (backgroundId? d.entries).or _ = given at hp ⊢
  cases given with
  | none => exact Attribute.text.inj (Option.some.inj hp)
  | some id => exact Attribute.text.inj (Option.some.inj hp)

/-- A card that is read among the backgrounds of a scene lies on the one that is meant. -/
theorem layOn_below {backgrounds : List Background} (h : backgrounds ≠ [])
    (hids : ∀ b ∈ backgrounds, b.id ≠ []) {d : Data} {c : Card} {n n' : Nat}
    (hc : ofData backgrounds d n = .ok (c, n')) :
    (below? backgrounds d.entries).map Background.id =
      some (c.layOn backgrounds).backgroundId := by
  have hempty : [] ∉ backgrounds.map Background.id := by
    rw [List.mem_map]
    rintro ⟨b, hb, hid⟩
    exact hids b hb hid
  have hid := ofData_backgroundId hc
  rw [← layOn_backgroundId h, below?, Option.map_or, Option.map_or, Background.find?_id]
  congr 1
  rw [meant?]
  cases hgiven : backgroundId? d.entries with
  | some id =>
      rw [hgiven] at hid
      dsimp only
      rw [Background.find?_id, hid]
      rfl
  | none =>
      rw [hgiven] at hid
      cases href : d.entries.get? "background" with
      | none =>
          rw [href] at hid
          rw [hid]
          exact (if_neg hempty).symm
      | some ref =>
          rw [href] at hid
          have hmeant : c.backgroundId =
              ((named? backgrounds ref.shown).map Background.id).getD [] := hid
          rw [hmeant]
          dsimp only [Option.bind_some]
          cases hnamed : named? backgrounds ref.shown with
          | none => exact (if_neg hempty).symm
          | some b => exact (if_pos (List.mem_map_of_mem (mem_of_named? hnamed))).symm

theorem layOn_mem {backgrounds : List Background} (h : backgrounds ≠ []) (c : Card) :
    (c.layOn backgrounds).backgroundId ∈ backgrounds.map Background.id := by
  have hlies := layOn_backgroundId h c
  obtain ⟨b, hb, hid⟩ := Option.map_eq_some_iff.mp hlies
  rw [← hid]
  refine List.mem_map_of_mem ?_
  rcases Option.or_eq_some_iff.mp hb with hfound | ⟨-, hfirst⟩
  · exact List.mem_of_find?_eq_some hfound
  · exact List.mem_of_head? hfirst

/-- Where there is a single background, every card lies on it. -/
theorem layOn_below_single (b : Background) (c : Card) (entries : Table Data) :
    (below? [b] entries).map Background.id = some (c.layOn [b]).backgroundId := by
  obtain ⟨b', hb', hbelow⟩ := exists_below (List.cons_ne_nil b []) entries
  obtain rfl := List.mem_singleton.mp hb'
  rw [hbelow, Option.map_some, List.mem_singleton.mp (layOn_mem (List.cons_ne_nil _ []) c)]

theorem layOn_usual {backgrounds : List Background} (hids : ∀ b ∈ backgrounds, b.id ≠ [])
    {first : Background} (hfirst : backgrounds.head? = some first) (id name : Text) :
    (usual id name).layOn backgrounds = { usual id name with backgroundId := first.id } := by
  have hnone : ¬backgrounds.any (·.id == (usual id name).backgroundId) := by
    rw [Background.any_id, List.mem_map]
    rintro ⟨b, hb, hid⟩
    exact hids b hb hid
  rw [layOn, if_neg hnone, hfirst]
  rfl

/-- Laying a card on a background changes nothing else about it. -/
theorem layOn_isOf {backgrounds backgrounds' : List Background} {d : Data} {c : Card} {n n' : Nat}
    (h : ofData backgrounds d n = .ok (c, n'))
    (hlies : (below? backgrounds' d.entries).map Background.id =
      some (c.layOn backgrounds').backgroundId) :
    IsOf backgrounds' d (c.layOn backgrounds') := by
  obtain ⟨hid, hparts, hread⟩ := ofData_ok h
  obtain ⟨backgroundId, heq⟩ := c.layOn_eq backgrounds'
  rw [heq] at hlies ⊢
  refine { id := hid, parts := hparts, lies := hlies, others := fun n hn hnot => ?_ }
  simp only [List.mem_cons, List.not_mem_nil, or_false, not_or] at hnot
  obtain ⟨-, hbackground, hobjects⟩ := hnot
  have hsame : ({ c with backgroundId } : Card).read n = c.read n := by
    cases n <;> first | rfl | exact absurd rfl hbackground
  rw [hsame, hread n hn hobjects, given?_resolveBackground hbackground]

/-- The cards of a scene: those that are listed, or else a single empty one. -/
inductive AllOf (backgrounds : List Background) : List Data → List Card → Prop
  | usual (issued : Nat) {first : Background} (h : backgrounds.head? = some first) :
    AllOf backgrounds []
      [{ usual (Identifier.make "card" issued) "Home" with backgroundId := first.id }]
  | listed {ds : List Data} {cards : List Card} (hne : ds ≠ [])
    (h : List.Forall₂ (IsOf backgrounds) ds cards) : AllOf backgrounds ds cards

end Card

/-- The backgrounds of a scene: those of the listed ones that stay, or else a single empty one. -/
inductive Background.AllOf : List Data → List Background → Prop
  | usual (issued : Nat) : AllOf [] [.usual (Identifier.make "bg" issued)]
  | listed {ds : List Data} {all backgrounds : List Background} (hne : ds ≠ [])
    (h : List.Forall₂ IsOf ds all) (hstay : Stay all backgrounds) : AllOf ds backgrounds

/-! ### The scene of a definition -/

namespace Scene

/-- A scene is the one that a definition describes. -/
structure IsOf (entries : Table Data) (s : Scene) : Prop where
  backgrounds : Background.AllOf (listed entries "backgrounds") s.backgrounds
  cards : Card.AllOf s.backgrounds (listed entries "cards") s.cards
  lies : ∀ c ∈ s.cards, ∃ b ∈ s.backgrounds, b.id = c.backgroundId
  /-- The current card is the one that is asked for, or else the nearest one. -/
  current : ∃ position,
    ((entries.get? "current_card").getD (.value (.int 0))).toInt = .ok position ∧
      (s.current : Int) = max 0 (min position (s.cards.length - 1))

theorem assemble_eq (stack : Stack) (backgrounds : List Background) (cards : List Card)
    (position : Int) (issued : Nat) :
    let s := assemble stack backgrounds cards position issued
    (backgrounds = [] → ∃ k, s.backgrounds = [.usual (Identifier.make "bg" k)]) ∧
    (cards = [] → ∃ k, s.cards =
      [(Card.usual (Identifier.make "card" k) "Home").layOn s.backgrounds]) ∧
    (cards ≠ [] → s.cards = cards.map (·.layOn s.backgrounds)) ∧
    s.current = clamp position s.cards.length := by
  intro s
  cases backgrounds with
  | nil =>
      cases cards with
      | nil => exact ⟨fun _ => ⟨_, rfl⟩, fun _ => ⟨_, rfl⟩, fun h => absurd rfl h, rfl⟩
      | cons c cards => exact ⟨fun _ => ⟨_, rfl⟩, nofun, fun _ => rfl, rfl⟩
  | cons b backgrounds =>
      cases cards with
      | nil => exact ⟨nofun, fun _ => ⟨_, rfl⟩, fun h => absurd rfl h, rfl⟩
      | cons c cards => exact ⟨nofun, nofun, fun _ => rfl, rfl⟩

theorem clamp_eq (position : Int) (length : Nat) :
    (clamp position length : Int) = max 0 (min position (length - 1)) := by
  rw [clamp]
  omega

variable {entries : Table Data} {s : Scene}

theorem ofDefinition_ok (h : Scene.ofDefinition entries = .ok s) :
    ∃ n, Scene.read entries 0 = .ok (s, n) := by
  change Prod.fst <$> Scene.read entries 0 = .ok s at h
  cases hread : Scene.read entries 0 with
  | error f =>
      rw [hread] at h
      exact nomatch h
  | ok result =>
      rw [hread] at h
      obtain rfl : result.1 = s := Except.ok.inj h
      exact ⟨result.2, rfl⟩

section

variable {stack : Stack} {all : List Background} {cards : List Card} {position : Int} {n : Nat}

/-- The backgrounds of a scene are those that stay, or there is a single one. -/
theorem assemble_allOf {ds : List Data} (hof : List.Forall₂ Background.IsOf ds all)
    (hids : ∀ d ∈ ds, ∀ id, givenId? d.entries = some id → id.toText ≠ []) :
    let bs := (assemble stack (Background.insertAll [] all) cards position n).backgrounds
    Background.AllOf ds bs ∧ bs ≠ [] ∧ (∀ b ∈ bs, b.id ≠ []) ∧
      (bs = Background.insertAll [] all ∨ ∃ b, bs = [b]) := by
  have hstay := Background.stay_insertAll all
  obtain ⟨hnone, -⟩ := assemble_eq stack (Background.insertAll [] all) cards position n
  by_cases hnil : all = []
  · obtain ⟨k, hk⟩ := hnone (by rw [hnil]; rfl)
    rw [hk]
    rw [hnil, List.forall₂_nil_right_iff] at hof
    rw [hof]
    refine ⟨.usual k, List.cons_ne_nil _ _, fun b hb => ?_, .inr ⟨_, rfl⟩⟩
    obtain rfl := List.mem_singleton.mp hb
    exact Identifier.make_ne_nil _ _
  · have hne : Background.insertAll [] all ≠ [] := Background.insertAll_ne_nil (.inr hnil)
    rw [assemble_backgrounds hne]
    refine ⟨.listed ?_ hof hstay, hne, fun b hb => ?_, .inl rfl⟩
    · rintro rfl
      exact hnil (List.forall₂_nil_left_iff.mp hof)
    · have hlast := List.mem_of_find?_eq_some (hstay.last b hb)
      exact Background.id_ne_nil_of_forall hof hids b (List.mem_reverse.mp hlast)

/-- The cards of a scene are those that are read, each laid on a background, or there is a single
one. -/
theorem assemble_cardsOf {backgrounds : List Background} {ds : List Data} :
    let s := assemble stack backgrounds cards position n
    s.backgrounds ≠ [] → (∀ b ∈ s.backgrounds, b.id ≠ []) →
      List.Forall₂ (Card.IsOf s.backgrounds) ds (cards.map (·.layOn s.backgrounds)) →
      Card.AllOf s.backgrounds ds s.cards ∧
        ∀ c ∈ s.cards, ∃ b ∈ s.backgrounds, b.id = c.backgroundId := by
  intro s hne hids hmeant
  obtain ⟨-, hhome, hlisted, -⟩ := assemble_eq stack backgrounds cards position n
  have hlies : ∀ laid : List Card, s.cards = laid.map (·.layOn s.backgrounds) →
      ∀ c ∈ s.cards, ∃ b ∈ s.backgrounds, b.id = c.backgroundId := by
    intro laid hlaid c hc
    rw [hlaid] at hc
    obtain ⟨c', -, rfl⟩ := List.mem_map.mp hc
    exact List.mem_map.mp (Card.layOn_mem hne c')
  by_cases hnil : cards = []
  · obtain ⟨k, hk⟩ := hhome hnil
    obtain ⟨first, rest, hfirst⟩ := List.exists_cons_of_ne_nil hne
    have hhead : s.backgrounds.head? = some first := by rw [hfirst]; rfl
    refine ⟨?_, hlies [_] hk⟩
    rw [hnil, List.map_nil, List.forall₂_nil_right_iff] at hmeant
    rw [hk, hmeant, Card.layOn_usual hids hhead]
    exact .usual k hhead
  · refine ⟨?_, hlies cards (hlisted hnil)⟩
    rw [hlisted hnil]
    refine .listed ?_ hmeant
    rintro rfl
    exact hnil (List.map_eq_nil_iff.mp (List.forall₂_nil_left_iff.mp hmeant))

end

/-- **A scene is the one that its definition describes**: its cards and backgrounds are those
that are listed, in their order and with their objects, every card lies on the background that is
meant, and the current card is the one that is asked for or the nearest one. -/
theorem ofDefinition_isOf (h : Scene.ofDefinition entries = .ok s)
    (hids : ∀ d ∈ listed entries "backgrounds", ∀ id,
      givenId? d.entries = some id → id.toText ≠ []) :
    s.IsOf entries := by
  obtain ⟨n, hread⟩ := ofDefinition_ok h
  obtain ⟨stack, m, all, m', cards, position, -, hall, hcards, hposition, hs⟩ := read_steps hread
  obtain ⟨-, -, hreads⟩ := Reading.takes_mapM Background.ofData_takes hall
  obtain ⟨-, -, hcardReads⟩ := Reading.takes_mapM (Card.ofData_takes _) hcards
  have hof : List.Forall₂ Background.IsOf (listed entries "backgrounds") all :=
    hreads.imp fun d b ⟨k, k', hb⟩ => Background.ofData_isOf hb
  obtain ⟨hallOf, hne, hempty, hsame⟩ :
      Background.AllOf (listed entries "backgrounds") s.backgrounds ∧ s.backgrounds ≠ [] ∧
        (∀ b ∈ s.backgrounds, b.id ≠ []) ∧
        (s.backgrounds = Background.insertAll [] all ∨ ∃ b, s.backgrounds = [b]) :=
    hs ▸ assemble_allOf hof hids
  have hmeant : List.Forall₂ (Card.IsOf s.backgrounds) (listed entries "cards")
      (cards.map (·.layOn s.backgrounds)) := by
    refine List.forall₂_map_right_iff.mpr (hcardReads.imp fun d c ⟨k, k', hc⟩ => ?_)
    refine Card.layOn_isOf hc ?_
    rcases hsame with heq | ⟨b, heq⟩
    · rw [heq] at hne hempty ⊢
      exact Card.layOn_below hne hempty hc
    · rw [heq]
      exact Card.layOn_below_single b c d.entries
  obtain ⟨hcardsOf, hlies⟩ : Card.AllOf s.backgrounds (listed entries "cards") s.cards ∧
      ∀ c ∈ s.cards, ∃ b ∈ s.backgrounds, b.id = c.backgroundId := by
    subst hs
    exact assemble_cardsOf hne hempty hmeant
  have hcurrent : s.current = clamp position s.cards.length := by
    subst hs
    obtain ⟨-, -, -, hcurrent⟩ :=
      assemble_eq stack (Background.insertAll [] all) cards position n
    exact hcurrent
  exact
    { backgrounds := hallOf
      cards := hcardsOf
      lies := hlies
      current := ⟨position, hposition, by rw [hcurrent, clamp_eq]⟩ }

theorem ofDefinition_of_mem (h : s ∈ (Scene.ofDefinition entries).toOption) :
    Scene.ofDefinition entries = .ok s := by
  cases hread : Scene.ofDefinition entries with
  | error f =>
      rw [hread] at h
      exact nomatch h
  | ok s' =>
      rw [hread] at h
      exact congrArg Except.ok (Option.some.inj h)

/-- Two backgrounds share their identifier, so the later one stays; a card is on the background of
its name, one on the first for want of another, and the last card is the current one. -/
theorem ofDefinition_isOf_shared :
    let entries : Table Data :=
      [("backgrounds", .list [
          .mapping [("id", .value (.text "paper")), ("name", .value (.text "Old"))],
          .mapping [("id", .value (.text "wood")), ("name", .value (.text "Table")),
            ("objects", .list [.mapping [("type", .value (.text "image"))]])],
          .mapping [("id", .value (.text "paper")), ("name", .value (.text "New"))]]),
        ("cards", .list [
          .mapping [("background", .value (.text "Table")), ("objects", .list [
            .mapping [("type", .value (.text "field")), ("content", .value (.text "a"))],
            .mapping [("name", .value (.text "Go"))]])],
          .mapping [("background", .value (.text "Old"))]]),
        ("current_card", .value (.int 7))]
    ∃ s, Scene.ofDefinition entries = .ok s ∧ s.IsOf entries ∧
      s.backgrounds.map Background.name = ["New", "Table"] ∧
      s.cards.map Card.backgroundId = ["wood", "paper"] ∧
      s.cards.map (fun c => c.parts.map Part.kind) = [[.field, .button], []] ∧ s.current = 1 := by
  intro entries
  have hread : ∃ s ∈ (Scene.ofDefinition entries).toOption,
      s.backgrounds.map Background.name = ["New", "Table"] ∧
      s.cards.map Card.backgroundId = ["wood", "paper"] ∧
      s.cards.map (fun c => c.parts.map Part.kind) = [[.field, .button], []] ∧ s.current = 1 := by
    decide +kernel
  obtain ⟨s, hs, hcontents⟩ := hread
  have h := ofDefinition_of_mem hs
  have hids : ∀ d ∈ listed entries "backgrounds", ∀ id,
      givenId? d.entries = some id → id.toText ≠ [] := by
    have hall : ∀ d ∈ listed entries "backgrounds",
        ∀ id ∈ givenId? d.entries, id.toText ≠ [] := by
      decide +kernel
    exact fun d hd id hid => hall d hd id hid
  exact ⟨s, h, ofDefinition_isOf h hids, hcontents⟩

/-- A card that names one background lies on another, as its definition has a second spelling of
the background's identifier behind the first.  Of two backgrounds that have the name a card gives,
the one that is listed first need not come first in the scene. -/
theorem ofDefinition_overridden :
    let background : Text → Text → Data := fun id name =>
      .mapping [("id", .value (.text id)), ("name", .value (.text name))]
    (∃ s, Scene.ofDefinition
        [("backgrounds", .list [background "a" "A", background "b" "B"]),
          ("cards", .list [.mapping [("background", .value (.text "a")),
            ("background_id", .value (.text "x")), ("backgroundId", .value (.text "b"))]])] =
          .ok s ∧
      s.backgrounds.map Background.id = ["a", "b"] ∧ s.cards.map Card.backgroundId = ["b"]) ∧
    ∃ s, Scene.ofDefinition
        [("backgrounds", .list [background "p" "X", background "q" "N", background "p" "N"]),
          ("cards", .list [.mapping [("background", .value (.text "N"))]])] = .ok s ∧
      s.backgrounds.map Background.id = ["p", "q"] ∧ s.cards.map Card.backgroundId = ["p"] := by
  intro background
  have hoverridden : ∃ s ∈ (Scene.ofDefinition
        [("backgrounds", .list [background "a" "A", background "b" "B"]),
          ("cards", .list [.mapping [("background", .value (.text "a")),
            ("background_id", .value (.text "x")),
            ("backgroundId", .value (.text "b"))]])]).toOption,
      s.backgrounds.map Background.id = ["a", "b"] ∧ s.cards.map Card.backgroundId = ["b"] := by
    decide +kernel
  have hreplaced : ∃ s ∈ (Scene.ofDefinition
        [("backgrounds", .list [background "p" "X", background "q" "N", background "p" "N"]),
          ("cards", .list [.mapping [("background", .value (.text "N"))]])]).toOption,
      s.backgrounds.map Background.id = ["p", "q"] ∧ s.cards.map Card.backgroundId = ["p"] := by
    decide +kernel
  obtain ⟨s, hs, hcontents⟩ := hoverridden
  obtain ⟨s', hs', hcontents'⟩ := hreplaced
  exact ⟨⟨s, ofDefinition_of_mem hs, hcontents⟩, s', ofDefinition_of_mem hs', hcontents'⟩

end Scene

end CardTalk
