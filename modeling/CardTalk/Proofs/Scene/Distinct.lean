/-
Which scenes keep their identifiers apart.

The identifiers made for missing ones differ among themselves, but the count that they come from
knows nothing of those that a definition gives.  A background whose identifier another one
already has takes its place, so a clash there also loses a background.  As long as none is lost,
a scene has just the identifiers that the labels of its definition stand for (`read_labels`), and
every move among its cards adds none but handed-out ones (`tour_extends`).

Both together give the exact condition for a scene to keep its identifiers apart and all its
backgrounds whatever cards come and go: the given identifiers differ, and none of them is ever
handed out (`read_distinct_iff`).
-/
import CardTalk.Proofs.Scene.Identity
import CardTalk.Proofs.Scene.Deck
import Mathlib.Data.List.Flatten
import Mathlib.Data.List.Perm.Subperm

namespace CardTalk

/-! ### Backgrounds replace each other -/

namespace Background

/-- The backgrounds with others put in, one after the other. -/
def insertAll (bs more : List Background) : List Background :=
  more.foldl (fun bs b => b.insert bs) bs

theorem insert_of_notMem {b : Background} {bs : List Background} (h : b.id ∉ bs.map id) :
    b.insert bs = bs ++ [b] := by
  induction bs with
  | nil => rfl
  | cons other bs ih =>
      rw [List.map_cons, List.mem_cons, not_or] at h
      rw [insert, if_neg fun heq => h.1 heq.symm, ih h.2, List.cons_append]

theorem length_insert_of_mem {b : Background} {bs : List Background} (h : b.id ∈ bs.map id) :
    (b.insert bs).length = bs.length := by
  induction bs with
  | nil => exact nomatch h
  | cons other bs ih =>
      rw [insert]
      split
      · rfl
      · rename_i hne
        rw [List.map_cons, List.mem_cons] at h
        rw [List.length_cons, List.length_cons, ih (h.resolve_left fun heq => hne heq.symm)]

/-- Backgrounds with different identifiers all stay. -/
theorem insertAll_of_nodup {bs more : List Background} (h : ((bs ++ more).map id).Nodup) :
    insertAll bs more = bs ++ more := by
  induction more generalizing bs with
  | nil => exact (List.append_nil bs).symm
  | cons b more ih =>
      have hb : b.id ∉ bs.map id := by
        rw [List.map_append, List.map_cons, List.nodup_append] at h
        exact fun hmem => h.2.2 _ hmem _ List.mem_cons_self rfl
      rw [insertAll, List.foldl_cons, insert_of_notMem hb]
      rw [← List.singleton_append, ← List.append_assoc] at h
      rw [← insertAll, ih h, List.append_assoc, List.singleton_append]

theorem length_insertAll_le (bs more : List Background) :
    (insertAll bs more).length ≤ bs.length + more.length := by
  induction more generalizing bs with
  | nil => exact Nat.le_refl _
  | cons b more ih =>
      have hinsert : (b.insert bs).length ≤ bs.length + 1 := by
        by_cases hb : b.id ∈ bs.map id
        · exact Nat.le_succ_of_le (Nat.le_of_eq (length_insert_of_mem hb))
        · exact Nat.le_of_eq (by rw [insert_of_notMem hb, List.length_append]; rfl)
      have hrest := ih (b.insert bs)
      rw [insertAll, List.foldl_cons, ← insertAll, List.length_cons]
      omega

/-- If as many backgrounds as were put in are there, then they all are. -/
theorem insertAll_of_length_le {bs more : List Background}
    (h : bs.length + more.length ≤ (insertAll bs more).length) :
    insertAll bs more = bs ++ more := by
  induction more generalizing bs with
  | nil => exact (List.append_nil bs).symm
  | cons b more ih =>
      rw [insertAll, List.foldl_cons, ← insertAll, List.length_cons] at h
      have hb : b.id ∉ bs.map id := by
        intro hmem
        have hle := length_insertAll_le (b.insert bs) more
        rw [length_insert_of_mem hmem] at hle
        omega
      rw [insert_of_notMem hb] at h
      rw [insertAll, List.foldl_cons, insert_of_notMem hb, ← insertAll, ih, List.append_assoc,
        List.singleton_append]
      rw [List.length_append, List.length_singleton]
      omega

theorem insertAll_ne_nil {bs more : List Background} (h : bs ≠ [] ∨ more ≠ []) :
    insertAll bs more ≠ [] := by
  induction more generalizing bs with
  | nil => exact h.resolve_right fun hne => hne rfl
  | cons b more ih =>
      refine ih (.inl ?_)
      cases bs with
      | nil => exact List.cons_ne_nil _ _
      | cons other bs =>
          show b.insert (other :: bs) ≠ []
          rw [insert]
          split <;> exact List.cons_ne_nil _ _

/-- Reading backgrounds one by one and putting each in is reading them all first. -/
theorem foldlM_ok {ds : List Data} {bs bs' : List Background} {n n' : Nat}
    (h : ds.foldlM (fun bs d => do return (← ofData d).insert bs : _ → _ → Reading _) bs n =
      .ok (bs', n')) :
    ∃ more, ds.mapM ofData n = .ok (more, n') ∧ bs' = insertAll bs more := by
  induction ds generalizing bs n with
  | nil =>
      obtain ⟨rfl, rfl⟩ := Reading.pure_ok h
      exact ⟨[], rfl, rfl⟩
  | cons d ds ih =>
      rw [List.foldlM_cons] at h
      obtain ⟨bs₁, n₁, hfirst, hrest⟩ := Reading.bind_ok h
      obtain ⟨b, n₂, hb, hput⟩ := Reading.bind_ok hfirst
      obtain ⟨rfl, rfl⟩ := Reading.pure_ok hput
      obtain ⟨more, hmore, rfl⟩ := ih hrest
      refine ⟨b :: more, ?_, rfl⟩
      rw [List.mapM_cons]
      rw [Reading.bind_eq hb, Reading.bind_eq hmore]
      rfl

end Background

/-! ### The identifiers of a scene that is read -/

namespace Scene

/-- The identifiers of an assembled scene, those of the usual background and card last. -/
theorem assemble_ids (stack : Stack) (backgrounds : List Background) (cards : List Card)
    (position : Int) (issued : Nat) :
    let usual := usualLabels backgrounds.isEmpty cards.isEmpty
    let s := assemble stack backgrounds cards position issued
    s.ids.Perm ([stack.id] ++ backgrounds.flatMap Background.ids ++ cards.flatMap Card.ids ++
        Label.ids issued usual) ∧
      s.issued = issued + (Label.words usual).length := by
  have hcards : ∀ (cards : List Card) (first : Text) (backgrounds : List Background),
      (cards.map fun c : Card => if backgrounds.any (·.id == c.backgroundId) then c
        else { c with backgroundId := first }).flatMap Card.ids = cards.flatMap Card.ids := by
    intro cards first backgrounds
    rw [List.flatMap_map]
    congr 1
    funext c
    split <;> rfl
  intro usual s
  show ([_] ++ List.flatMap Background.ids _ ++ List.flatMap Card.ids (List.map _ _)).Perm _ ∧ _
  rw [hcards]
  cases backgrounds with
  | nil =>
      cases cards with
      | nil => exact ⟨.refl _, rfl⟩
      | cons c cs =>
          refine ⟨?_, rfl⟩
          rw [List.append_assoc, List.append_assoc]
          exact List.perm_append_comm.append_left [stack.id]
  | cons b bs =>
      cases cards with
      | nil =>
          refine ⟨?_, rfl⟩
          rw [List.flatMap_nil, List.append_nil]
          exact .refl _
      | cons c cs => exact ⟨.of_eq (List.append_nil _).symm, rfl⟩

theorem assemble_backgrounds {stack : Stack} {backgrounds : List Background} {cards : List Card}
    {position : Int} {issued : Nat} (h : backgrounds ≠ []) :
    (assemble stack backgrounds cards position issued).backgrounds = backgrounds := by
  unfold assemble
  rw [List.isEmpty_eq_false_iff.mpr h]
  rfl

/-- The backgrounds that a definition lists have been read one after the other, and the scene
begins with them. -/
def Keeps (s : Scene) (entries : Table Data) : Prop :=
  ∃ bs issued issued',
    (listed entries "backgrounds").mapM Background.ofData issued = .ok (bs, issued') ∧
      bs <+: s.backgrounds

variable {entries : Table Data} {issued n : Nat} {s : Scene}

/-- A definition is read part by part. -/
theorem read_steps (h : Scene.read entries issued = .ok (s, n)) :
    ∃ stack m all m' cards position,
      Stack.ofData ((entries.get? "stack").getD .null) issued = .ok (stack, m) ∧
      (listed entries "backgrounds").mapM Background.ofData m = .ok (all, m') ∧
      (listed entries "cards").mapM (Card.ofData (Background.insertAll [] all)) m' =
        .ok (cards, n) ∧
      ((entries.get? "current_card").getD (.value (.int 0))).toInt = .ok position ∧
      s = assemble stack (Background.insertAll [] all) cards position n := by
  unfold Scene.read at h
  dsimp only at h
  obtain ⟨stack, m, hstack, hread⟩ := Reading.bind_ok h
  obtain ⟨ds, _, hds, hread₁⟩ := Reading.bind_ok hread
  obtain ⟨hlisted, rfl⟩ := Reading.lift_ok hds
  obtain ⟨backgrounds, m', hfold, hread₂⟩ := Reading.bind_ok hread₁
  obtain ⟨all, hall, rfl⟩ := Background.foldlM_ok hfold
  obtain ⟨cs, _, hcs, hread₃⟩ := Reading.bind_ok hread₂
  obtain ⟨hlistedCards, rfl⟩ := Reading.lift_ok hcs
  obtain ⟨cards, m'', hcards, hread₄⟩ := Reading.bind_ok hread₃
  obtain ⟨position, _, hlift, hread₅⟩ := Reading.bind_ok hread₄
  obtain ⟨hposition, rfl⟩ := Reading.lift_ok hlift
  obtain ⟨count, _, hget, hread₆⟩ := Reading.bind_ok hread₅
  obtain ⟨rfl, rfl⟩ := Prod.mk.inj (Except.ok.inj hget)
  obtain ⟨rfl, rfl⟩ := Reading.pure_ok hread₆
  obtain rfl : listed entries "backgrounds" = ds := by
    rw [listed, hlisted]
    rfl
  obtain rfl : listed entries "cards" = cs := by
    rw [listed, hlistedCards]
    rfl
  exact ⟨stack, _, all, _, cards, position, hstack, hall, hcards, hposition, rfl⟩

/-- What a definition is read into. -/
theorem read_ok (h : Scene.read entries issued = .ok (s, n)) :
    ∃ stack all cards position m m',
      (listed entries "backgrounds").mapM Background.ofData m = .ok (all, m') ∧
      (listed entries "cards").length = cards.length ∧
      [stack.id] ++ all.flatMap Background.ids ++ cards.flatMap Card.ids =
        Label.ids issued (listedLabels entries) ∧
      s = assemble stack (Background.insertAll [] all) cards position
        (issued + (Label.words (listedLabels entries)).length) := by
  obtain ⟨stack, m, all, m', cards, position, hstack, hall, hcards, -, rfl⟩ := read_steps h
  obtain ⟨hstackIds, hm⟩ := Stack.ofData_takes _ hstack
  obtain ⟨hallIds, hm', -⟩ := Reading.takes_mapM Background.ofData_takes hall
  obtain ⟨hcardIds, hm'', hforall⟩ := Reading.takes_mapM (Card.ofData_takes _) hcards
  refine ⟨stack, all, cards, position, _, _, hall, hforall.length_eq, ?_, ?_⟩
  · dsimp only at hstackIds
    rw [hstackIds, hallIds, hcardIds, listedLabels, Label.ids_append, Label.ids_append,
      Label.words_append, List.length_append, ← Nat.add_assoc, ← hm, ← hm']
  · rw [hm'', hm', hm, listedLabels, Label.words_append, Label.words_append, List.length_append,
      List.length_append, ← Nat.add_assoc, ← Nat.add_assoc]

/-- None of the backgrounds has been replaced if all that are listed are there. -/
theorem insertAll_of_keeps {stack : Stack} {all : List Background} {cards : List Card}
    {position : Int} {m m' count : Nat}
    (hall : (listed entries "backgrounds").mapM Background.ofData m = .ok (all, m'))
    (hkeeps : (assemble stack (Background.insertAll [] all) cards position count).Keeps entries) :
    Background.insertAll [] all = all := by
  obtain ⟨bs, k, k', hbs, after, hprefix⟩ := hkeeps
  obtain ⟨-, -, hread⟩ := Reading.takes_mapM Background.ofData_takes hall
  obtain ⟨-, -, hread'⟩ := Reading.takes_mapM Background.ofData_takes hbs
  by_cases hnil : all = []
  · rw [hnil]
    rfl
  · have hlength := congrArg List.length hprefix
    rw [assemble_backgrounds (Background.insertAll_ne_nil (.inr hnil)), List.length_append,
      ← hread'.length_eq, hread.length_eq] at hlength
    refine Background.insertAll_of_length_le ?_
    rw [List.length_nil]
    omega

/-- A scene that has all the backgrounds of its definition has the identifiers that the labels
stand for. -/
theorem read_labels (h : Scene.read entries issued = .ok (s, n)) (hkeeps : s.Keeps entries) :
    s.ids.Perm (Label.ids issued (labels entries)) ∧
      s.issued = issued + (Label.words (labels entries)).length := by
  obtain ⟨stack, all, cards, position, m, m', hall, hlength, hids, rfl⟩ := read_ok h
  rw [insertAll_of_keeps hall hkeeps]
  obtain ⟨-, -, hread⟩ := Reading.takes_mapM Background.ofData_takes hall
  have hempty : (listed entries "backgrounds").isEmpty = all.isEmpty := by
    rw [Bool.eq_iff_iff, List.isEmpty_iff_length_eq_zero, List.isEmpty_iff_length_eq_zero,
      hread.length_eq]
  have hempty' : (listed entries "cards").isEmpty = cards.isEmpty := by
    rw [Bool.eq_iff_iff, List.isEmpty_iff_length_eq_zero, List.isEmpty_iff_length_eq_zero, hlength]
  rw [labels, Label.ids_append, Label.words_append, List.length_append, ← Nat.add_assoc, hempty,
    hempty', ← hids]
  exact assemble_ids stack all cards position _

/-- A definition whose labels stand for different identifiers has none of its backgrounds
replaced. -/
theorem read_keeps (h : Scene.read entries issued = .ok (s, n))
    (hnodup : (Label.ids issued (labels entries)).Nodup) : s.Keeps entries := by
  obtain ⟨stack, all, cards, position, m, m', hall, -, hids, rfl⟩ := read_ok h
  have hdistinct : (all.map Background.id).Nodup := by
    rw [labels, Label.ids_append, ← hids] at hnodup
    have hsublist : (all.map Background.id).Sublist (all.flatMap Background.ids) := by
      rw [List.map_eq_flatMap]
      exact .flatMap_right all fun b _ => List.sublist_append_right ..
    exact hnodup.of_append_left.of_append_left.of_append_right.sublist hsublist
  refine ⟨all, _, _, hall, ?_⟩
  rw [@Background.insertAll_of_nodup [] all hdistinct, List.nil_append]
  by_cases hnil : all = []
  · rw [hnil]
    exact List.nil_prefix
  · refine ⟨[], ?_⟩
    rw [assemble_backgrounds hnil, List.append_nil]

end Scene

/-! ### Identifiers as cards come and go -/

namespace Scene

variable {s : Scene}

/-- A scene has come from another one by cards that came and went: the stack and the backgrounds
are the same, and so are the identifiers but for those handed out to cards. -/
structure Extends (s s' : Scene) : Prop where
  stack : s'.stack = s.stack
  backgrounds : s'.backgrounds = s.backgrounds
  ids : ∃ m, s'.issued = s.issued + m ∧
    s'.ids.Subperm (s.ids ++ Identifier.issue s.issued (List.replicate m "card"))

theorem Extends.refl (s : Scene) : s.Extends s where
  stack := rfl
  backgrounds := rfl
  ids := ⟨0, rfl, by rw [List.replicate_zero, Identifier.issue, List.append_nil]⟩

theorem Extends.trans {s s' s'' : Scene} (h : s.Extends s') (h' : s'.Extends s'') :
    s.Extends s'' where
  stack := h'.stack.trans h.stack
  backgrounds := h'.backgrounds.trans h.backgrounds
  ids := by
    obtain ⟨m, hissued, hids⟩ := h.ids
    obtain ⟨m', hissued', hids'⟩ := h'.ids
    refine ⟨m + m', by rw [hissued', hissued, Nat.add_assoc], hids'.trans ?_⟩
    rw [List.replicate_add, Identifier.issue_append, List.length_replicate, ← hissued,
      ← List.append_assoc]
    exact hids.append (List.Subperm.refl _)

theorem moveTo_issued (s : Scene) (i : Nat) (back : Bool) :
    (s.moveTo i back).issued = s.issued := by
  unfold Scene.moveTo
  by_cases hi : i = s.current
  · rw [if_pos hi]
  · rw [if_neg hi]

theorem extends_moveTo (s : Scene) (i : Nat) (back : Bool) : s.Extends (s.moveTo i back) := by
  obtain ⟨hstack, hbackgrounds, hcards, -⟩ := of_contents (s.moveTo_contents i back)
  refine ⟨hstack, hbackgrounds, 0, s.moveTo_issued i back, ?_⟩
  rw [List.replicate_zero, Identifier.issue, List.append_nil]
  rw [ids, hstack, hbackgrounds, hcards, ids]

theorem insertCard_ids (s : Scene) {card : Card} (h : card.parts = []) (issued : Nat) :
    (s.insertCard card issued).ids.Perm (s.ids ++ [card.id]) := by
  have hcard : card.ids = [card.id] := by
    rw [Card.ids, h]
    rfl
  have hcards : (s.cards.take (s.current + 1) ++ card :: s.cards.drop (s.current + 1)).Perm
      (s.cards ++ [card]) := by
    refine List.perm_middle.trans ?_
    rw [List.take_append_drop]
    exact (List.perm_append_singleton card s.cards).symm
  have hids := hcards.flatMap_right Card.ids
  rw [List.flatMap_append, List.flatMap_append, List.flatMap_singleton, hcard,
    ← List.flatMap_append] at hids
  rw [ids, ids, List.append_assoc _ _ [card.id]]
  exact hids.append_left _

/-- A card that is added takes the next identifier. -/
theorem addCard_ids {s' : Scene} {name : Option Text} (h : s.addCard name = .ok s') :
    s'.stack = s.stack ∧ s'.backgrounds = s.backgrounds ∧ s'.issued = s.issued + 1 ∧
      s'.ids.Perm (s.ids ++ [Identifier.make "card" (s.issued + 1)]) := by
  obtain ⟨card, hid, hparts, -, -, rfl⟩ := addCard_inserts h
  obtain ⟨hstack, hbackgrounds, hcards, -⟩ :=
    of_contents (moveTo_contents (s.insertCard card (s.issued + 1)) (s.current + 1) false)
  refine ⟨hstack, hbackgrounds, moveTo_issued .., ?_⟩
  have hids := s.insertCard_ids hparts (s.issued + 1)
  rw [ids, hstack, hbackgrounds, hcards, ← hid]
  exact hids

theorem extends_act {s' : Scene} {move : Move} (h : s.act move = .ok s') : s.Extends s' := by
  cases move with
  | goTo i =>
      obtain rfl := Except.ok.inj h
      exact extends_moveTo s i false
  | back =>
      rw [act] at h
      cases hback : s.resolve (.text "back") with
      | error f =>
          rw [hback] at h
          cases h
      | ok i =>
          rw [hback] at h
          obtain rfl := Except.ok.inj h
          exact extends_moveTo s i true
  | add name =>
      obtain ⟨hstack, hbackgrounds, hissued, hids⟩ := addCard_ids h
      exact ⟨hstack, hbackgrounds, 1, hissued, hids.subperm⟩
  | delete =>
      rw [act, deleteCard] at h
      split at h
      · obtain rfl := Except.ok.inj h
        exact .refl s
      · split at h
        · cases h
        · rename_i card hcard
          obtain rfl := Except.ok.inj h
          refine ⟨rfl, rfl, 0, rfl, ?_⟩
          rw [List.replicate_zero, Identifier.issue, List.append_nil]
          have hcards := (List.eraseIdx_sublist s.cards s.current).flatMap Card.ids
          exact (hcards.append_left _).subperm

/-- After any moves there are no identifiers but those of the scene and ones handed out to
cards. -/
theorem extends_tour (s : Scene) (moves : List Move) : s.Extends (tour Scene.act s moves).2 := by
  induction moves generalizing s with
  | nil => exact .refl s
  | cons move moves ih =>
      rw [tour]
      split
      · rename_i s' hact
        exact (extends_act hact).trans (ih s')
      · exact ih s

/-- Where there is a current card, one can be added, and there is a current card again. -/
theorem addCard_hasCurrent (h : s.HasCurrent) (name : Option Text) :
    ∃ s', s.addCard name = .ok s' ∧ s'.HasCurrent := by
  have hbelow : s.currentCard = .ok s.cards[s.current] := by
    rw [currentCard, cardAt, List.getElem?_eq_getElem h]
  obtain ⟨s', hadd⟩ : ∃ s', s.addCard name = .ok s' := by
    unfold Scene.addCard
    rw [hbelow]
    exact ⟨_, rfl⟩
  refine ⟨s', hadd, ?_⟩
  obtain ⟨card, -, -, -, hlt, rfl⟩ := addCard_inserts hadd
  obtain ⟨-, -, hcards, hcurrent⟩ :=
    of_contents (moveTo_contents (s.insertCard card (s.issued + 1)) (s.current + 1) false)
  rw [HasCurrent, hcards, hcurrent, insertCard]
  simp only [List.length_append, List.length_cons, List.length_take, List.length_drop]
  omega

/-- Adding cards leads to all the identifiers that are handed out to so many cards. -/
theorem tour_add (h : s.HasCurrent) (m : Nat) :
    (tour Scene.act s (List.replicate m (.add none))).2.ids.Perm
      (s.ids ++ Identifier.issue s.issued (List.replicate m "card")) := by
  induction m generalizing s with
  | zero =>
      rw [List.replicate_zero, List.replicate_zero, Identifier.issue, List.append_nil]
      exact .refl _
  | succ m ih =>
      obtain ⟨s', hadd, hcurrent⟩ := addCard_hasCurrent h none
      obtain ⟨-, -, hissued, hids⟩ := addCard_ids hadd
      rw [List.replicate_succ, List.replicate_succ, tour, show s.act (.add none) = .ok s' from hadd]
      refine (ih hcurrent).trans ?_
      rw [hissued, Identifier.issue, ← List.singleton_append, ← List.append_assoc]
      exact hids.append_right _

end Scene

/-! ### When identifiers stay apart -/

/-- Given identifiers and handed-out ones all differ if the given ones do and none is handed
out. -/
theorem Label.nodup_append_issue_iff (givens words : List Text) (issued : Nat) :
    (givens ++ Identifier.issue issued words).Nodup ↔
      givens.Nodup ∧ ∀ id ∈ givens, id ∉ Identifier.issue issued words := by
  rw [List.nodup_append']
  have hissue := Identifier.issue_nodup issued words
  exact ⟨fun h => ⟨h.1, fun id hid hmem => h.2.2 hid hmem⟩,
    fun h => ⟨h.1, hissue, fun id hid hmem => h.2 id hid hmem⟩⟩

namespace Scene

variable {entries : Table Data} {issued n : Nat} {s : Scene}

/-- The identifiers of a scene that has been read and of cards to come are the given ones and
those handed out one after the other. -/
theorem read_ids_append (h : Scene.read entries issued = .ok (s, n)) (hkeeps : s.Keeps entries)
    (m : Nat) :
    (s.ids ++ Identifier.issue s.issued (List.replicate m "card")).Perm
      (Label.givens (labels entries) ++
        Identifier.issue issued
          (Label.words (labels entries) ++ List.replicate m ("card" : Text))) := by
  obtain ⟨hids, hissued⟩ := read_labels h hkeeps
  rw [Identifier.issue_append, ← hissued, ← List.append_assoc]
  exact (hids.trans (Label.ids_perm issued _)).append_right _

/-- **A scene keeps its identifiers apart, and the backgrounds of its definition, whatever cards
are added and deleted, if and only if the given identifiers differ and none of them is one that
is handed out.** -/
theorem read_distinct_iff (h : Scene.read entries issued = .ok (s, n)) :
    (∀ moves, let s' := (tour Scene.act s moves).2
      s'.ids.Nodup ∧ s'.Keeps entries) ↔
    (Label.givens (labels entries)).Nodup ∧
      ∀ m, ∀ id ∈ Label.givens (labels entries),
        id ∉ Identifier.issue issued
          (Label.words (labels entries) ++ List.replicate m ("card" : Text)) := by
  constructor
  · intro hmoves
    have hkeeps : s.Keeps entries := (hmoves []).2
    have hcurrent : s.HasCurrent := by
      obtain ⟨stack, all, cards, position, -, -, -, -, -, rfl⟩ := read_ok h
      exact (assemble_wellFormed ..).current
    have hall : ∀ m, (Label.givens (labels entries)).Nodup ∧
        ∀ id ∈ Label.givens (labels entries),
          id ∉ Identifier.issue issued
            (Label.words (labels entries) ++ List.replicate m ("card" : Text)) := by
      intro m
      have hnodup := (hmoves (List.replicate m (.add none))).1
      have hids := (tour_add hcurrent m).trans (read_ids_append h hkeeps m)
      exact (Label.nodup_append_issue_iff ..).mp (hids.nodup_iff.mp hnodup)
    exact ⟨(hall 0).1, fun m => (hall m).2⟩
  · rintro ⟨hgivens, hunissued⟩ moves s'
    have hnodup : ∀ m, (Label.givens (labels entries) ++ Identifier.issue issued
        (Label.words (labels entries) ++ List.replicate m ("card" : Text))).Nodup :=
      fun m => (Label.nodup_append_issue_iff ..).mpr ⟨hgivens, hunissued m⟩
    have hkeeps : s.Keeps entries := by
      refine read_keeps h ((Label.ids_perm issued _).nodup_iff.mpr ?_)
      have hnone := hnodup 0
      rwa [List.replicate_zero, List.append_nil] at hnone
    obtain ⟨-, hbackgrounds, m, -, hids⟩ := s.extends_tour moves
    refine ⟨?_, ?_⟩
    · obtain ⟨ids, hperm, hsublist⟩ := hids
      have hall := (read_ids_append h hkeeps m).nodup_iff.mpr (hnodup m)
      exact hperm.nodup_iff.mp (hall.sublist hsublist)
    · rw [Keeps, hbackgrounds]
      exact hkeeps

/-- Some entities are given identifiers and others are not; whatever cards come and go, no two
identifiers are the same and both backgrounds stay. -/
theorem read_distinct_iff_mixed :
    let entries : Table Data :=
      [("stack", .mapping [("id", .value (.text "main"))]),
        ("backgrounds", .list [
          .mapping [("id", .value (.text "paper")), ("objects", .list [
            .mapping [("type", .value (.text "field")), ("id", .value (.text "title"))],
            .mapping [("type", .value (.text "button"))]])],
          .mapping [("name", .value (.text "Plain"))]]),
        ("cards", .list [.mapping [("background", .value (.text "Plain"))],
          .mapping [("id", .value (.text "last"))]])]
    ∃ s n, Scene.read entries 0 = .ok (s, n) ∧ s.backgrounds.length = 2 ∧
      ∀ moves, (tour Scene.act s moves).2.ids.Nodup ∧ (tour Scene.act s moves).2.Keeps entries := by
  intro entries
  have hread : ∃ r ∈ (Scene.read entries 0).toOption, r.1.backgrounds.length = 2 := by
    decide +kernel
  obtain ⟨⟨s, n⟩, hr, hlength⟩ := hread
  have h : Scene.read entries 0 = .ok (s, n) := by
    cases hx : Scene.read entries 0 with
    | error f =>
        rw [hx] at hr
        exact nomatch hr
    | ok r =>
        rw [hx] at hr
        exact congrArg Except.ok (Option.some.inj hr)
  have hgivens : (Label.givens (labels entries)).Nodup := by decide +kernel
  have hdash : ∀ id ∈ Label.givens (labels entries), '-' ∉ id := by decide +kernel
  exact ⟨s, n, h, hlength, (read_distinct_iff h).mpr
    ⟨hgivens, fun m id hid hmem => hdash id hid (Identifier.dash_mem_of_mem_issue hmem)⟩⟩

/-- The second background and the second card are given no identifiers, and the ones made for them
are those of the first: the first background is lost, and the two cards cannot be told apart. -/
theorem read_clash :
    let entries : Table Data :=
      [("backgrounds", .list [
          .mapping [("id", .value (.text "bg-2")), ("name", .value (.text "First"))],
          .mapping [("name", .value (.text "Second"))]]),
        ("cards", .list [
          .mapping [("id", .value (.text "card-3")), ("name", .value (.text "A"))],
          .mapping [("name", .value (.text "B"))]])]
    Label.givens (labels entries) = ["bg-2", "card-3"] ∧
      ∃ s ∈ (Scene.ofDefinition entries).toOption,
        s.ids = ["stack-1", "bg-2", "card-3", "card-3"] ∧
          s.backgrounds.map Background.name = ["Second"] := by
  decide +kernel

end Scene

end CardTalk
