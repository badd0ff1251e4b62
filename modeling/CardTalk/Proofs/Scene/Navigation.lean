/-
Where the user is, as it follows from what has been done to the cards.

The scene remembers its edits, the latest first, so the navigation at any time is the one at
the start with the edits until then replayed.  `WellFormed` is what navigation should be.
Adding a card and removing one keep it, and so does going to the position of a card; looking
a destination up gives the position of a card.  A scene that is put together is well formed.

Going to a card looks its position up before handlers are told, and uses it after they have
run.  `Overtaken` is what can happen to it in between, and nothing else makes navigation ill
formed: `Recorded.wellFormed_iff`.
-/
import CardTalk.Scene.Definition
import CardTalk.Scene.Reference

namespace CardTalk

/-- Where the user is and has been among a number of cards. -/
structure Navigation where
  cards : Nat
  current : Nat
  history : List Nat
  deriving DecidableEq

/-- The navigation of a scene. -/
def Scene.navigation (s : Scene) : Navigation := ⟨s.cards.length, s.current, s.history⟩

namespace Navigation

/-- There is a card, and every position is the position of one. -/
structure WellFormed (n : Navigation) : Prop where
  nonempty : 0 < n.cards
  current : n.current < n.cards
  history : ∀ i ∈ n.history, i < n.cards

instance (n : Navigation) : Decidable n.WellFormed :=
  decidable_of_iff (0 < n.cards ∧ n.current < n.cards ∧ ∀ i ∈ n.history, i < n.cards)
    ⟨fun ⟨h, h', h''⟩ => ⟨h, h', h''⟩, fun ⟨h, h', h''⟩ => ⟨h, h', h''⟩⟩

/-- The navigation after an edit. -/
def after (n : Navigation) : Edit → Navigation
  | .added position =>
    { n with
      cards := n.cards + 1
      history := n.history.map fun i => if i ≥ position then i + 1 else i }
  | .removed position _ =>
    { cards := n.cards - 1
      current := min position (n.cards - 1 - 1)
      history := (n.history.filter (· != position)).map fun i =>
        if i > position then i - 1 else i }
  | .moved i back =>
    let history := if back then n.history.tail else n.history
    if i = n.current then { n with history }
    else { n with current := i, history := if back then history else n.current :: history }

/-- The navigation after edits, the latest first. -/
def replay (start : Navigation) (edits : List Edit) : Navigation :=
  edits.foldr (fun edit n => n.after edit) start

@[simp] theorem replay_nil (start : Navigation) : start.replay [] = start := rfl

@[simp] theorem replay_cons (start : Navigation) (edit : Edit) (edits : List Edit) :
    start.replay (edit :: edits) = (start.replay edits).after edit := rfl

/-! ### Edits that keep navigation well formed -/

section

variable {n : Navigation} (h : n.WellFormed)

include h

theorem WellFormed.added (position : Nat) : (n.after (.added position)).WellFormed := by
  refine ⟨Nat.succ_pos _, Nat.lt_succ_of_lt h.current, fun i hi => ?_⟩
  obtain ⟨k, hk, rfl⟩ := List.mem_map.mp hi
  have hlt := h.history k hk
  dsimp only [Navigation.after]
  split <;> omega

theorem WellFormed.removed {position : Nat} (card : Card) (hmany : 1 < n.cards)
    (hposition : position < n.cards) : (n.after (.removed position card)).WellFormed := by
  refine ⟨Nat.sub_pos_of_lt hmany, ?_, fun i hi => ?_⟩
  · dsimp only [Navigation.after]
    omega
  · obtain ⟨k, hk, rfl⟩ := List.mem_map.mp hi
    obtain ⟨hmem, hne⟩ := List.mem_filter.mp hk
    have hlt := h.history k hmem
    have hne : k ≠ position := by simpa using hne
    dsimp only [Navigation.after]
    split <;> omega

theorem WellFormed.moved {i : Nat} (back : Bool) (hi : i < n.cards) :
    (n.after (.moved i back)).WellFormed := by
  have hback : ∀ k ∈ n.history.tail, k < n.cards :=
    fun k hk => h.history k (List.mem_of_mem_tail hk)
  have hforth : ∀ k ∈ n.current :: n.history, k < n.cards :=
    List.forall_mem_cons.mpr ⟨h.current, h.history⟩
  dsimp only [Navigation.after]
  split
  · refine ⟨h.nonempty, h.current, ?_⟩
    cases back with
    | true => exact hback
    | false => exact h.history
  · refine ⟨h.nonempty, hi, ?_⟩
    cases back with
    | true => exact hback
    | false => exact hforth

end

/-- A move from one card to another goes there, and takes the latest entry out of the history or
puts the card that is left into it. -/
theorem after_moved {n : Navigation} {i : Nat} (hi : i ≠ n.current) (back : Bool) :
    n.after (.moved i back) =
      ⟨n.cards, i, if back then n.history.tail else n.current :: n.history⟩ := by
  cases back <;> exact if_neg hi

/-- A well formed move goes to a card. -/
theorem WellFormed.lt_of_moved {n : Navigation} {i : Nat} {back : Bool}
    (h : (n.after (.moved i back)).WellFormed) : i < n.cards := by
  have hcurrent := h.current
  dsimp only [Navigation.after] at hcurrent
  split at hcurrent
  · rename_i hi
    exact hi ▸ hcurrent
  · exact hcurrent

/-! ### The number of cards -/

/-- There are no fewer cards after edits that have removed none. -/
theorem cards_replay_le (start : Navigation) {since : List Edit} (before : List Edit)
    (h : ∀ position card, Edit.removed position card ∉ since) :
    (start.replay before).cards ≤ (start.replay (since ++ before)).cards := by
  induction since with
  | nil => exact Nat.le_refl _
  | cons edit since ih =>
      have hrest := ih fun position card hmem => h position card (List.mem_cons_of_mem _ hmem)
      cases edit with
      | added position => exact Nat.le_succ_of_le hrest
      | removed position card => exact absurd List.mem_cons_self (h position card)
      | moved i back =>
          rw [List.cons_append, replay_cons]
          dsimp only [Navigation.after]
          split <;> exact hrest

/-- A position was a card's before some edits, which have removed a card, and is no card's
after them. -/
structure Overtaken (start : Navigation) (i : Nat) (before since : List Edit) : Prop where
  valid : i < (start.replay before).cards
  removal : ∃ position card, Edit.removed position card ∈ since
  beyond : (start.replay (since ++ before)).cards ≤ i

/-- What an edit after those of the past can be: no card is removed that is the only one or
not there, and a position gone to is a card's or has been looked up in the past. -/
def Admits (start : Navigation) (past : List Edit) : Edit → Prop
  | .added _ => True
  | .removed position _ =>
    1 < (start.replay past).cards ∧ position < (start.replay past).cards
  | .moved i _ =>
    i < (start.replay past).cards ∨ ∃ since before, past = since ++ before ∧
      (start.Overtaken i before since ∨ ¬(start.replay before).WellFormed)

end Navigation

namespace Scene

variable {s : Scene}

/-! ### Looking destinations up -/

theorem numbered_lt {asked : Text} {n : Int} {i : Nat} (h : s.numbered asked n = .ok i) :
    i < s.cards.length := by
  unfold numbered at h
  split at h
  · exact nomatch h
  · have hi := Except.ok.inj h
    omega

theorem named_lt {asked : Text} {i : Nat} (h : s.named asked = .ok i) : i < s.cards.length := by
  unfold named at h
  dsimp only at h
  split at h
  · rename_i k hk
    obtain rfl := Except.ok.inj h
    exact (List.findIdx?_eq_some_iff_findIdx_eq.mp hk).1
  · exact nomatch h

theorem byKeyword_lt (hs : s.navigation.WellFormed) {k : Keyword} {i : Nat}
    (h : s.byKeyword k = .ok i) : i < s.cards.length := by
  have hpos : 0 < s.cards.length := hs.nonempty
  have hcurrent : s.current < s.cards.length := hs.current
  cases k with
  | back =>
      cases hhistory : s.history with
      | nil => simp [byKeyword, hhistory] at h
      | cons k rest =>
          obtain rfl : k = i := by simpa [byKeyword, hhistory] using h
          exact hs.history k (by simp [navigation, hhistory])
  | next =>
      simp only [byKeyword] at h
      split at h
      · exact nomatch h
      · have hi := Except.ok.inj h
        omega
  | previous =>
      simp only [byKeyword] at h
      split at h
      · exact nomatch h
      · have hi := Except.ok.inj h
        omega
  | first => exact Except.ok.inj h ▸ hpos
  | last =>
      have hi := Except.ok.inj h
      omega

/-- A destination that is found is the position of a card. -/
theorem resolve_lt (hs : s.navigation.WellFormed) {destination : Value} {i : Nat}
    (h : s.resolve destination = .ok i) : i < s.cards.length := by
  cases destination with
  | int n => exact numbered_lt h
  | logical b => exact numbered_lt h
  | null => exact nomatch h
  | float x => exact nomatch h
  | text t =>
      simp only [resolve, bind, Except.bind] at h
      split at h
      · exact nomatch h
      · split at h
        · exact numbered_lt h
        · split at h
          · exact byKeyword_lt hs h
          · exact named_lt h

/-! ### The contents of a scene -/

/-- What is saved of a scene: the stack, the backgrounds and cards with all that is on them,
and the position of the current card. -/
def contents (s : Scene) : Stack × List Background × List Card × Nat :=
  (s.stack, s.backgrounds, s.cards, s.current)

/-- There is a card at the current position. -/
def HasCurrent (s : Scene) : Prop := s.current < s.cards.length

instance (s : Scene) : Decidable s.HasCurrent := inferInstanceAs (Decidable (_ < _))

theorem of_contents {s : Scene} {stack : Stack} {backgrounds : List Background}
    {cards : List Card} {position : Nat}
    (h : s.contents = (stack, backgrounds, cards, position)) :
    s.stack = stack ∧ s.backgrounds = backgrounds ∧ s.cards = cards ∧ s.current = position := by
  simpa only [contents, Prod.mk.injEq] using h

theorem hasCurrent_of_contents {s s' : Scene} (h : s'.contents = s.contents)
    (hcurrent : s'.HasCurrent) : s.HasCurrent := by
  obtain ⟨-, -, hcards, hposition⟩ := of_contents h
  rw [HasCurrent, ← hcards, ← hposition]
  exact hcurrent

theorem moveTo_contents (s : Scene) (i : Nat) (back : Bool) :
    (s.moveTo i back).contents = (s.stack, s.backgrounds, s.cards, i) := by
  unfold Scene.moveTo
  by_cases hi : i = s.current
  · rw [if_pos hi, contents, hi]
  · rw [if_neg hi, contents]

theorem hasCurrent_moveTo {s : Scene} {i : Nat} (hi : i < s.cards.length) (back : Bool) :
    (s.moveTo i back).HasCurrent := by
  obtain ⟨-, -, hcards, hposition⟩ := of_contents (s.moveTo_contents i back)
  rw [HasCurrent, hcards, hposition]
  exact hi

theorem moveTo_edits (s : Scene) (i : Nat) (back : Bool) :
    (s.moveTo i back).edits = .moved i back :: s.edits := by
  unfold Scene.moveTo
  by_cases hi : i = s.current
  · rw [if_pos hi]
  · rw [if_neg hi]

/-- Writing an entity leaves navigation and edits alone. -/
theorem replace_navigation (s : Scene) (place : Place) (x : Entity) :
    (s.replace place x).navigation = s.navigation ∧ (s.replace place x).edits = s.edits := by
  unfold Scene.replace
  split <;> simp [navigation]

/-- Writing through a reference writes one entity, if any. -/
theorem rewrite_cases (s : Scene) (r : Reference) (change : Entity → Entity) :
    s.rewrite r change = s ∨
      ∃ place x, s.entity? place = some x ∧ s.rewrite r change = s.replace place (change x) := by
  rw [rewrite]
  cases hplace : s.placeOf? r with
  | none => exact .inl rfl
  | some place =>
      cases hx : s.entity? place with
      | none => exact .inl (by rw [Option.bind_some, hx]; rfl)
      | some x => exact .inr ⟨place, x, hx, by rw [Option.bind_some, hx]; rfl⟩

theorem rewrite_navigation (s : Scene) (r : Reference) (change : Entity → Entity) :
    (s.rewrite r change).navigation = s.navigation ∧ (s.rewrite r change).edits = s.edits := by
  obtain hsame | ⟨place, x, -, hreplace⟩ := s.rewrite_cases r change
  · rw [hsame]
    exact ⟨rfl, rfl⟩
  · rw [hreplace]
    exact s.replace_navigation ..

/-- Where a move leads is what navigation makes of it. -/
theorem moveTo_navigation (s : Scene) (i : Nat) (back : Bool) :
    (s.moveTo i back).navigation = s.navigation.after (.moved i back) := by
  unfold Scene.moveTo Navigation.after
  by_cases hi : i = s.current
  · simp only [hi, if_true, navigation]
  · simp only [hi, if_false, navigation]

/-! ### Adding a card and deleting one -/

/-- The scene with a card after the current one, which stays the current one. -/
def insertCard (s : Scene) (card : Card) (issued : Nat) : Scene :=
  { s with
    issued
    cards := s.cards.take (s.current + 1) ++ card :: s.cards.drop (s.current + 1)
    history := s.history.map fun i => if i ≥ s.current + 1 then i + 1 else i
    edits := .added (s.current + 1) :: s.edits }

theorem lt_of_currentCard {card : Card} (h : s.currentCard = .ok card) :
    s.current < s.cards.length := by
  simp only [currentCard, cardAt] at h
  split at h
  · rename_i hsome
    exact (List.getElem?_eq_some_iff.mp hsome).1
  · exact nomatch h

/-- The card that is added is empty and takes the next identifier. -/
theorem addCard_inserts {name : Option Text} {s' : Scene} (h : s.addCard name = .ok s') :
    ∃ card, card.id = Identifier.make "card" (s.issued + 1) ∧ card.parts = [] ∧
      card.script = [] ∧ s.current < s.cards.length ∧
      s' = (s.insertCard card (s.issued + 1)).moveTo (s.current + 1) false := by
  unfold Scene.addCard at h
  cases hbelow : s.currentCard with
  | error f => simp [hbelow, bind, Except.bind] at h
  | ok below =>
      simp only [hbelow, bind, Except.bind, pure, Except.pure, Except.ok.injEq] at h
      exact ⟨_, rfl, rfl, rfl, lt_of_currentCard hbelow, h.symm⟩

theorem addCard_eq {name : Option Text} {s' : Scene} (h : s.addCard name = .ok s') :
    ∃ card issued, card.parts = [] ∧ card.script = [] ∧ s.current < s.cards.length ∧
      s' = (s.insertCard card issued).moveTo (s.current + 1) false := by
  obtain ⟨card, -, hparts, hscript, hcurrent, heq⟩ := addCard_inserts h
  exact ⟨card, _, hparts, hscript, hcurrent, heq⟩

theorem insertCard_navigation (hcurrent : s.HasCurrent) (card : Card) (issued : Nat) :
    (s.insertCard card issued).navigation = s.navigation.after (.added (s.current + 1)) := by
  have hcurrent : s.current < s.cards.length := hcurrent
  simp only [navigation, insertCard, Navigation.after, Navigation.mk.injEq, and_self, and_true]
  simp only [List.length_append, List.length_cons, List.length_take, List.length_drop]
  omega

/-- The card that is deleted is the current one, and others are left. -/
theorem deleteCard_eq {s' : Scene} (h : s.deleteCard = .ok (some s')) :
    ∃ card, 1 < s.cards.length ∧ s.HasCurrent ∧ s'.stack = s.stack ∧
      s'.backgrounds = s.backgrounds ∧ s'.cards = s.cards.eraseIdx s.current ∧
      s'.edits = .removed s.current card :: s.edits ∧
      s'.navigation = s.navigation.after (.removed s.current card) := by
  unfold Scene.deleteCard at h
  split at h
  · exact nomatch h
  · rename_i hmany
    split at h
    · exact nomatch h
    · rename_i card hcard
      have hcurrent := (List.getElem?_eq_some_iff.mp hcard).1
      obtain rfl := Option.some.inj (Except.ok.inj h)
      refine ⟨card, Nat.lt_of_not_le hmany, hcurrent, rfl, rfl, rfl, rfl, ?_⟩
      simp [navigation, Navigation.after, List.length_eraseIdx_of_lt hcurrent]

/-! ### What the edits of a scene tell -/

/-- The scene has come from a navigation by its edits. -/
structure Recorded (start : Navigation) (s : Scene) : Prop where
  replayed : s.navigation = start.replay s.edits
  admitted : ∀ edit past, edit :: past <:+ s.edits → start.Admits past edit

theorem recorded_self (hs : s.edits = []) : s.Recorded s.navigation where
  replayed := by rw [hs, Navigation.replay_nil]
  admitted edit past h := absurd h (by simp [hs])

namespace Recorded

variable {start : Navigation} (h : s.Recorded start)

include h

/-- Whatever leaves navigation and edits alone keeps the record. -/
theorem same {s' : Scene} (hnavigation : s'.navigation = s.navigation)
    (hedits : s'.edits = s.edits) : s'.Recorded start := by
  obtain ⟨hreplayed, hadmitted⟩ := h
  rw [← hnavigation, ← hedits] at hreplayed
  rw [← hedits] at hadmitted
  exact ⟨hreplayed, hadmitted⟩

/-- One more edit. -/
theorem edit {s' : Scene} (edit : Edit) (hedit : start.Admits s.edits edit)
    (hnavigation : s'.navigation = s.navigation.after edit) (hedits : s'.edits = edit :: s.edits) :
    s'.Recorded start := by
  refine ⟨by rw [hnavigation, hedits, h.replayed, Navigation.replay_cons], ?_⟩
  intro edit' past hpast
  rw [hedits] at hpast
  rcases List.suffix_cons_iff.mp hpast with heq | hpast
  · obtain ⟨rfl, rfl⟩ := List.cons.inj heq
    exact hedit
  · exact h.admitted edit' past hpast

theorem cards_eq : (start.replay s.edits).cards = s.cards.length := by
  rw [← h.replayed]
  rfl

/-- Going to a position that is a card's or was looked up earlier. -/
theorem moveTo {i : Nat} (back : Bool) (hi : start.Admits s.edits (.moved i back)) :
    s.edits <:+ (s.moveTo i back).edits ∧ (s.moveTo i back).Recorded start := by
  have hedits := s.moveTo_edits i back
  exact ⟨hedits ▸ List.suffix_cons _ _, h.edit _ hi (s.moveTo_navigation i back) hedits⟩

/-- A position that was looked up may be gone to after any further edits. -/
theorem admits_resolved {s' : Scene} (hle : s.edits <:+ s'.edits)
    {destination : Value} {i : Nat} (hi : s.resolve destination = .ok i) (back : Bool) :
    start.Admits s'.edits (.moved i back) := by
  obtain ⟨since, hsince⟩ := hle
  by_cases hlt : i < (start.replay s'.edits).cards
  · exact .inl hlt
  · refine .inr ⟨since, s.edits, hsince.symm, ?_⟩
    by_cases hs : s.navigation.WellFormed
    · have hvalid : i < (start.replay s.edits).cards := h.cards_eq ▸ resolve_lt hs hi
      have hbeyond : (start.replay (since ++ s.edits)).cards ≤ i := by
        rw [hsince]
        exact Nat.le_of_not_lt hlt
      refine .inl ⟨hvalid, ?_, hbeyond⟩
      -- Without a removal there would still be as many cards.
      refine Classical.byContradiction fun hnone => ?_
      have hle := start.cards_replay_le s.edits fun position card hmem =>
        hnone ⟨position, card, hmem⟩
      exact absurd (Nat.lt_of_lt_of_le hvalid hle) (Nat.not_lt.mpr hbeyond)
    · rw [h.replayed] at hs
      exact .inr hs

/-- Adding a card puts it in and goes there. -/
theorem addCard {name : Option Text} {s' : Scene} (hs' : s.addCard name = .ok s') :
    s.edits <:+ s'.edits ∧ s'.Recorded start := by
  obtain ⟨card, issued, -, -, hcurrent, rfl⟩ := addCard_eq hs'
  have hadded : (s.insertCard card issued).Recorded start :=
    h.edit (.added (s.current + 1)) trivial (insertCard_navigation hcurrent card issued) rfl
  obtain ⟨hle, hrecorded⟩ := hadded.moveTo (i := s.current + 1) false (.inl (by
    rw [hadded.cards_eq, insertCard]
    simp only [List.length_append, List.length_cons, List.length_take, List.length_drop]
    omega))
  exact ⟨(List.suffix_cons _ _).trans hle, hrecorded⟩

/-- Deleting the current card removes it. -/
theorem deleteCard {s' : Scene} (hs' : s.deleteCard = .ok (some s')) :
    s.edits <:+ s'.edits ∧ s'.Recorded start := by
  obtain ⟨card, hmany, hcurrent, -, -, -, hedits, hnavigation⟩ := deleteCard_eq hs'
  refine ⟨hedits ▸ List.suffix_cons _ _, h.edit _ ?_ hnavigation hedits⟩
  rw [Navigation.Admits, h.cards_eq]
  exact ⟨hmany, hcurrent⟩

/-! ### When navigation is well formed -/

/-- No move of the scene went to a position that had been overtaken. -/
theorem wellFormed_of_not_overtaken (hstart : start.WellFormed)
    (hmoves : ∀ i back since before, .moved i back :: (since ++ before) <:+ s.edits →
      ¬start.Overtaken i before since) :
    ∀ past, past <:+ s.edits → (start.replay past).WellFormed := by
  -- The induction is over the past; a move looks back to any earlier time.
  suffices hall : ∀ past, past <:+ s.edits → ∀ earlier, earlier <:+ past →
      (start.replay earlier).WellFormed from
    fun past hpast => hall past hpast past (List.suffix_refl _)
  intro past
  induction past with
  | nil =>
      intro _ earlier hearlier
      rwa [List.suffix_nil.mp hearlier]
  | cons edit past ih =>
      intro hpast earlier hearlier
      have hbefore := ih ((List.suffix_cons edit past).trans hpast)
      have hwf := hbefore past (List.suffix_refl _)
      have hadmitted := h.admitted edit past hpast
      rcases List.suffix_cons_iff.mp hearlier with rfl | hearlier
      · cases edit with
        | added position => exact hwf.added position
        | removed position card => exact hwf.removed card hadmitted.1 hadmitted.2
        | moved i back =>
            refine hwf.moved back ?_
            obtain hlt | ⟨since, before, rfl, hovertaken | hill⟩ := hadmitted
            · exact hlt
            · exact absurd hovertaken (hmoves i back since before hpast)
            · exact absurd (hbefore before (List.suffix_append ..)) hill
      · exact hbefore earlier hearlier

/-- **Navigation has always been well formed if and only if no move went to a position that
had been overtaken.** -/
theorem wellFormed_iff (hstart : start.WellFormed) :
    (∀ past, past <:+ s.edits → (start.replay past).WellFormed) ↔
      ∀ i back since before, .moved i back :: (since ++ before) <:+ s.edits →
        ¬start.Overtaken i before since := by
  constructor
  · intro hwf i back since before hmove hovertaken
    have hlt := (hwf _ hmove).lt_of_moved
    exact absurd hlt (Nat.not_lt.mpr hovertaken.beyond)
  · exact h.wellFormed_of_not_overtaken hstart

/-- There has always been a card. -/
theorem nonempty (hstart : start.WellFormed) : 0 < s.cards.length := by
  suffices hall : ∀ past, past <:+ s.edits → 0 < (start.replay past).cards from
    h.cards_eq ▸ hall _ (List.suffix_refl _)
  intro past
  induction past with
  | nil => exact fun _ => hstart.nonempty
  | cons edit past ih =>
      intro hpast
      have hpos := ih ((List.suffix_cons edit past).trans hpast)
      have hadmitted := h.admitted edit past hpast
      rw [Navigation.replay_cons]
      cases edit with
      | added position => exact Nat.succ_pos _
      | removed position card => exact Nat.sub_pos_of_lt hadmitted.1
      | moved i back =>
          dsimp only [Navigation.after]
          split <;> exact hpos

end Recorded

end Scene

/-! ### Scenes at the start -/

namespace Scene

theorem clamp_lt (position : Int) {length : Nat} (h : 0 < length) :
    clamp position length < length := by
  unfold clamp
  omega

variable (stack : Stack) (backgrounds : List Background) (cards : List Card) (position : Int)
  (issued : Nat)

theorem assemble_wellFormed :
    (assemble stack backgrounds cards position issued).navigation.WellFormed := by
  have hpos : 0 < (assemble stack backgrounds cards position issued).cards.length := by
    unfold assemble
    cases cards <;> cases backgrounds <;> simp
  refine ⟨hpos, ?_, ?_⟩
  · exact clamp_lt position hpos
  · exact fun i hi => nomatch hi

end Scene

end CardTalk
