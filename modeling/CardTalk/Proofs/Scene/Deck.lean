/-
The history of positions is a history of cards.

A `Deck` says where the user is by the cards themselves: each card has a mark that no other
card ever gets, and the current card and the history are marks.  Nothing in a deck has to be
shifted when cards come and go, so what going, going back, adding and deleting mean can be
read off its operations.

A scene stays in step with a deck (`InStep`): the cards are the same in the same order, and
each position in the scene denotes the card whose mark stands in its place in the deck.  One
move keeps them in step and fails in both or in neither (`InStep.act`), so every tour does
(`tour_inStep`).
-/
import CardTalk.Proofs.Scene.Navigation
import Mathlib.Data.List.Forall2
import Mathlib.Data.List.Nodup

namespace CardTalk

/-- A card with its mark. -/
structure MarkedCard where
  mark : Nat
  card : Card
  deriving DecidableEq

/-- Where the user is among marked cards. -/
structure Deck where
  /-- In order. -/
  cards : List MarkedCard
  /-- The mark of the current card. -/
  current : Nat
  /-- The marks of the cards left behind, the latest first. -/
  history : List Nat
  /-- The mark that the next new card gets. -/
  nextMark : Nat
  /-- How many identifiers have been handed out. -/
  issued : Nat
  deriving DecidableEq

/-- What can be done to move among the cards of a scene. -/
inductive Move where
  /-- Go to the card at a position. -/
  | goTo (i : Nat)
  | back
  | add (name : Option Text)
  | delete
  deriving DecidableEq

/-- Makes moves one after the other, going on from where it was after one that fails: the
fault of each move that failed, and where they have led. -/
def tour {σ : Type} (act : σ → Move → Except Fault σ) (s : σ) : List Move → List (Option Fault) × σ
  | [] => ([], s)
  | move :: rest =>
    match act s move with
    | .ok s' => (none :: (tour act s' rest).1, (tour act s' rest).2)
    | .error f => (some f :: (tour act s rest).1, (tour act s rest).2)

namespace Deck

/-- The marks of the cards, in order. -/
def marks (d : Deck) : List Nat := d.cards.map MarkedCard.mark

/-- The deck of a scene: a card's mark is the position it has now. -/
def ofScene (s : Scene) : Deck where
  cards := s.cards.mapIdx fun i card => ⟨i, card⟩
  current := s.current
  history := s.history
  nextMark := s.cards.length
  issued := s.issued

/-- Goes to a card, which is nothing for the current one. -/
def go (d : Deck) (mark : Nat) : Deck :=
  if mark = d.current then d
  else { d with current := mark, history := d.current :: d.history }

/-- Goes to the card that was left last, and forgets that it was. -/
def back (d : Deck) : Except Fault Deck :=
  match d.history with
  | [] => .error .noHistory
  | mark :: rest => .ok { d with current := mark, history := rest }

/-- A new card for a place behind another one. -/
def newCard (d : Deck) (name : Option Text) (below : Card) : Card where
  id := Identifier.make "card" (d.issued + 1)
  name := match name with
    | none | some [] => ("Card " : Text) ++ Text.ofNat (d.cards.length + 1)
    | some name => name
  backgroundId := below.backgroundId
  script := []
  backgroundColor := none
  parts := []

/-- Puts a new card right behind the current one and goes there. -/
def add (d : Deck) (name : Option Text) : Deck where
  cards := d.cards.flatMap fun c =>
    if c.mark = d.current then [c, ⟨d.nextMark, d.newCard name c.card⟩] else [c]
  current := d.nextMark
  history := d.current :: d.history
  nextMark := d.nextMark + 1
  issued := d.issued + 1

/-- The card right behind the current one. -/
def successor? (d : Deck) : Option MarkedCard :=
  (d.cards.dropWhile fun c => c.mark != d.current).tail.head?

/-- Takes the current card out of the deck and the history, unless it is the only one.  The
card behind it becomes the current one, or else the last card that is left. -/
def delete (d : Deck) : Deck :=
  let rest := d.cards.filter fun c => c.mark != d.current
  match d.successor?.or rest.getLast? with
  | none => d
  | some next =>
    { d with
      cards := rest
      current := next.mark
      history := d.history.filter fun mark => mark != d.current }

/-- Makes a move. -/
def act (d : Deck) : Move → Except Fault Deck
  | .goTo i =>
    match d.marks[i]? with
    | some mark => .ok (d.go mark)
    | none => .ok d
  | .back => d.back
  | .add name => .ok (d.add name)
  | .delete => .ok d.delete

end Deck

namespace Scene

/-- Makes a move. -/
def act (s : Scene) : Move → Except Fault Scene
  | .goTo i => .ok (s.moveTo i false)
  | .back => do
    let i ← s.resolve (.text "back")
    return s.moveTo i true
  | .add name => s.addCard name
  | .delete => do return (← s.deleteCard).getD s

/-- A move to a position goes to a card. -/
def Allows (s : Scene) : Move → Prop
  | .goTo i => i < s.cards.length
  | .back | .add _ | .delete => True

instance (s : Scene) (move : Move) : Decidable (s.Allows move) := by
  cases move <;> unfold Allows <;> infer_instance

/-- All moves of a tour that go to a position go to a card. -/
def AllowsAll (s : Scene) : List Move → Prop
  | [] => True
  | move :: rest => s.Allows move ∧ ((s.act move).toOption.getD s).AllowsAll rest

instance decidableAllowsAll : (s : Scene) → (moves : List Move) → Decidable (s.AllowsAll moves)
  | _, [] => .isTrue trivial
  | s, move :: rest =>
    have := decidableAllowsAll ((s.act move).toOption.getD s) rest
    inferInstanceAs (Decidable (_ ∧ _))

theorem moveTo_of_ne {s : Scene} {i : Nat} (hi : i ≠ s.current) :
    s.moveTo i false =
      { s with
        current := i
        history := s.current :: s.history
        edits := .moved i false :: s.edits } := by
  unfold Scene.moveTo
  exact if_neg hi

/-- Going back means the latest position in the history. -/
theorem resolve_back (s : Scene) :
    s.resolve (.text "back") =
      match s.history with
      | [] => .error .noHistory
      | i :: _ => .ok i := by
  have hnumber : askedNumber? "back" = .ok none := by decide +kernel
  have hkeyword : Keyword.of? "back" = some .back := by decide +kernel
  simp only [resolve, hnumber, hkeyword, bind, Except.bind]
  rfl

end Scene

/-! ### In step -/

/-- A scene and a deck hold the same cards in the same order, and where the scene has the
position of a card, the deck has its mark. -/
structure InStep (s : Scene) (d : Deck) : Prop where
  cards : s.cards = d.cards.map MarkedCard.card
  current : d.marks[s.current]? = some d.current
  history : List.Forall₂ (fun i mark => d.marks[i]? = some mark) s.history d.history
  /-- No mark is given twice. -/
  distinct : d.marks.Nodup
  unused : ∀ mark ∈ d.marks, mark < d.nextMark
  issued : s.issued = d.issued

/-- How a move has ended for a scene and a deck: they have failed alike, or they are in
step. -/
inductive Agree : Except Fault Scene → Except Fault Deck → Prop
  | ok {s : Scene} {d : Deck} (h : InStep s d) : Agree (.ok s) (.ok d)
  | error (f : Fault) : Agree (.error f) (.error f)

/-- A position behind one where an element is put in means the same as before. -/
theorem getElem?_shift_up {α : Type} (before after : List α) (x : α) (i : Nat) :
    (before ++ x :: after)[if i ≥ before.length then i + 1 else i]? = (before ++ after)[i]? := by
  by_cases hi : i ≥ before.length
  · have hshift : i + 1 - before.length = (i - before.length) + 1 := by omega
    rw [if_pos hi, List.getElem?_append_right (by omega), List.getElem?_append_right hi, hshift,
      List.getElem?_cons_succ]
  · rw [if_neg hi, List.getElem?_append_left (by omega), List.getElem?_append_left (by omega)]

/-- A position other than one where an element is taken out means the same as before. -/
theorem getElem?_shift_down {α : Type} (before after : List α) (x : α) {i : Nat}
    (hi : i ≠ before.length) :
    (before ++ after)[if i > before.length then i - 1 else i]? = (before ++ x :: after)[i]? := by
  by_cases hgt : i > before.length
  · have hshift : i - before.length = (i - 1 - before.length) + 1 := by omega
    rw [if_pos hgt, List.getElem?_append_right (by omega), List.getElem?_append_right (by omega),
      hshift, List.getElem?_cons_succ]
  · rw [if_neg hgt, List.getElem?_append_left (by omega), List.getElem?_append_left (by omega)]

/-- The element behind one that is taken out, or else the last one, is at its place, or else at
the last one. -/
theorem getElem?_successor {α : Type} {before after : List α} {next : α}
    (hnext : after.head?.or (before ++ after).getLast? = some next) :
    (before ++ after)[min before.length ((before ++ after).length - 1)]? = some next := by
  cases after with
  | nil =>
      rw [List.append_nil, Nat.min_eq_right (Nat.sub_le _ _), ← List.getLast?_eq_getElem?]
      simpa using hnext
  | cons a after =>
      have hle : before.length ≤ (before ++ a :: after).length - 1 := by
        rw [List.length_append, List.length_cons]
        omega
      rw [Nat.min_eq_left hle, List.getElem?_append_right (Nat.le_refl _), Nat.sub_self]
      exact hnext

namespace Deck

variable {d : Deck} {before after : List MarkedCard} {c : MarkedCard}
  (hsplit : d.cards = before ++ c :: after) (hmark : c.mark = d.current)
  (hbefore : ∀ b ∈ before, b.mark ≠ d.current) (hafter : ∀ a ∈ after, a.mark ≠ d.current)

include hsplit hmark hbefore hafter

/-- The new card stands right behind the current one. -/
theorem cards_add (name : Option Text) :
    (d.add name).cards = (before ++ [c]) ++ ⟨d.nextMark, d.newCard name c.card⟩ :: after := by
  have hkeep : ∀ l : List MarkedCard, (∀ a ∈ l, a.mark ≠ d.current) →
      (l.flatMap fun c =>
        if c.mark = d.current then [c, ⟨d.nextMark, d.newCard name c.card⟩] else [c]) = l := by
    intro l hl
    induction l with
    | nil => rfl
    | cons a l ih =>
        rw [List.flatMap_cons, if_neg (hl a List.mem_cons_self),
          ih fun b hb => hl b (List.mem_cons_of_mem _ hb), List.singleton_append]
  rw [Deck.add, hsplit, List.flatMap_append, List.flatMap_cons, hkeep before hbefore,
    hkeep after hafter, if_pos hmark]
  simp

/-- The only card stays. -/
theorem delete_only (honly : before ++ after = []) : d.delete = d := by
  obtain ⟨rfl, rfl⟩ := List.append_eq_nil_iff.mp honly
  have hrest : (d.cards.filter fun c => c.mark != d.current) = [] := by
    rw [hsplit]
    simp [hmark]
  have hsuccessor : d.successor? = none := by
    rw [Deck.successor?, hsplit]
    simp [hmark]
  simp only [Deck.delete, hsuccessor, hrest]
  rfl

/-- The current card is gone, and the one behind it or the last one has its place. -/
theorem delete_eq (hmany : before ++ after ≠ []) :
    ∃ next, (after.head?.or (before ++ after).getLast?) = some next ∧
      d.delete = { d with
        cards := before ++ after
        current := next.mark
        history := d.history.filter fun mark => mark != d.current } := by
  have hkeep : ∀ l : List MarkedCard, (∀ a ∈ l, a.mark ≠ d.current) →
      (l.filter fun c => c.mark != d.current) = l := by
    intro l hl
    refine List.filter_eq_self.mpr fun a ha => ?_
    exact bne_iff_ne.mpr (hl a ha)
  have hrest : (d.cards.filter fun c => c.mark != d.current) = before ++ after := by
    rw [hsplit, List.filter_append, hkeep before hbefore, List.filter_cons_of_neg (by simp [hmark]),
      hkeep after hafter]
  have hsuccessor : d.successor? = after.head? := by
    rw [Deck.successor?, hsplit, List.dropWhile_append_of_pos fun b hb => ?_]
    · rw [List.dropWhile_cons_of_neg (by simp [hmark]), List.tail_cons]
    · exact bne_iff_ne.mpr (hbefore b hb)
  cases hnext : after.head?.or (before ++ after).getLast? with
  | none =>
      have hlast := (Option.or_eq_none_iff.mp hnext).2
      exact absurd (List.getLast?_eq_none_iff.mp hlast) hmany
  | some next =>
      refine ⟨next, rfl, ?_⟩
      simp only [Deck.delete, hsuccessor, hrest, hnext]

end Deck

namespace InStep

variable {s : Scene} {d : Deck} (h : InStep s d)

include h

/-- A position is that of the current card if and only if its mark is. -/
theorem eq_current_iff {i mark : Nat} (hi : d.marks[i]? = some mark) :
    i = s.current ↔ mark = d.current := by
  obtain ⟨hlt, -⟩ := List.getElem?_eq_some_iff.mp hi
  constructor
  · intro heq
    subst heq
    exact Option.some.inj (hi.symm.trans h.current)
  · intro heq
    subst heq
    exact (List.getElem?_inj hlt h.distinct).mp (hi.trans h.current.symm)

/-- The deck falls into the cards before the current one, that card and those behind it. -/
theorem split : ∃ before c after, d.cards = before ++ c :: after ∧ before.length = s.current ∧
    c.mark = d.current ∧ (∀ b ∈ before, b.mark ≠ d.current) ∧ ∀ a ∈ after, a.mark ≠ d.current := by
  have hcurrent := h.current
  rw [Deck.marks, List.getElem?_map] at hcurrent
  obtain ⟨c, hc, hmark⟩ := Option.map_eq_some_iff.mp hcurrent
  obtain ⟨hlt, rfl⟩ := List.getElem?_eq_some_iff.mp hc
  generalize hbefore : d.cards.take s.current = before
  generalize hafter : d.cards.drop (s.current + 1) = after
  have hsplit : d.cards = before ++ d.cards[s.current] :: after := by
    rw [← hbefore, ← hafter, List.getElem_cons_drop, List.take_append_drop]
  have hlength : before.length = s.current := by
    rw [← hbefore, List.length_take_of_le (Nat.le_of_lt hlt)]
  have hdistinct : (d.cards.map MarkedCard.mark).Nodup := h.distinct
  rw [hsplit, List.map_append, List.map_cons, List.nodup_middle, ← List.map_append, hmark]
    at hdistinct
  have hnone : ∀ a ∈ before ++ after, a.mark ≠ d.current := by
    intro a ha heq
    refine (List.nodup_cons.mp hdistinct).1 ?_
    rw [← heq]
    exact List.mem_map_of_mem ha
  refine ⟨before, d.cards[s.current], after, hsplit, hlength, hmark, ?_, ?_⟩
  · exact fun b hb => hnone b (List.mem_append_left _ hb)
  · exact fun a ha => hnone a (List.mem_append_right _ ha)

/-! ### Moves -/

/-- Going to a card. -/
theorem goTo {i : Nat} (hi : i < s.cards.length) :
    Agree (s.act (.goTo i)) (d.act (.goTo i)) := by
  have hlength : i < d.marks.length := by
    rwa [Deck.marks, List.length_map, ← List.length_map (f := MarkedCard.card), ← h.cards]
  obtain ⟨mark, hmark⟩ : ∃ mark, d.marks[i]? = some mark :=
    ⟨_, List.getElem?_eq_getElem hlength⟩
  have heq := h.eq_current_iff hmark
  simp only [Scene.act, Scene.moveTo, Deck.act, hmark, Deck.go]
  by_cases hcurrent : i = s.current
  · rw [if_pos hcurrent, if_pos (heq.mp hcurrent)]
    exact .ok ⟨h.cards, h.current, h.history, h.distinct, h.unused, h.issued⟩
  · rw [if_neg hcurrent, if_neg fun hc => hcurrent (heq.mpr hc)]
    exact .ok ⟨h.cards, hmark, .cons h.current h.history, h.distinct, h.unused, h.issued⟩

/-- Going back. -/
theorem back : Agree (s.act .back) (d.act .back) := by
  have hhistory := h.history
  simp only [Scene.act, Scene.resolve_back, Deck.act, Deck.back]
  cases hs : s.history with
  | nil =>
      rw [hs] at hhistory
      rw [List.forall₂_nil_left_iff.mp hhistory]
      exact .error _
  | cons i rest =>
      rw [hs] at hhistory
      obtain ⟨mark, marks, hmark, hrest, hd⟩ := List.forall₂_cons_left_iff.mp hhistory
      rw [hd]
      simp only [bind, Except.bind, Scene.moveTo, hs, List.tail_cons]
      refine .ok ?_
      by_cases hcurrent : i = s.current
      · simp only [if_pos hcurrent, if_true]
        exact ⟨h.cards, hcurrent ▸ hmark, hrest, h.distinct, h.unused, h.issued⟩
      · simp only [if_neg hcurrent, if_true]
        exact ⟨h.cards, hmark, hrest, h.distinct, h.unused, h.issued⟩

/-- The scene puts the deck's new card behind the current one and goes there. -/
theorem act_add {c : Card} (hc : s.cards[s.current]? = some c) (name : Option Text) :
    s.act (.add name) =
      .ok ((s.insertCard (d.newCard name c) (s.issued + 1)).moveTo (s.current + 1) false) := by
  have hbelow : s.currentCard = .ok c := by
    rw [Scene.currentCard, Scene.cardAt, hc]
  have hcards : s.cards.length = d.cards.length := by rw [h.cards, List.length_map]
  rw [Scene.act, Scene.addCard, hbelow]
  unfold Deck.newCard
  rw [← h.issued, ← hcards]
  rfl

/-- Adding a card. -/
theorem add (name : Option Text) : Agree (s.act (.add name)) (d.act (.add name)) := by
  obtain ⟨before, c, after, hsplit, hlength, hmark, hbefore, hafter⟩ := h.split
  have hmarks : d.marks = (before ++ [c]).map MarkedCard.mark ++ after.map MarkedCard.mark := by
    rw [Deck.marks, hsplit, ← List.map_append, List.append_assoc, List.singleton_append]
  have hmarks' : (d.add name).marks =
      (before ++ [c]).map MarkedCard.mark ++ d.nextMark :: after.map MarkedCard.mark := by
    rw [Deck.marks, Deck.cards_add hsplit hmark hbefore hafter, List.map_append, List.map_cons]
  have hposition : ((before ++ [c]).map MarkedCard.mark).length = s.current + 1 := by
    rw [List.length_map, List.length_append, hlength, List.length_singleton]
  have hshift : ∀ i mark, d.marks[i]? = some mark →
      (d.add name).marks[if i ≥ s.current + 1 then i + 1 else i]? = some mark := by
    intro i mark hi
    rw [hmarks', ← hposition, getElem?_shift_up, ← hmarks, hi]
  have hcurrent : (d.add name).marks[s.current]? = some d.current := by
    have hleft := hshift s.current d.current h.current
    rwa [if_neg (by omega)] at hleft
  have hnext : (d.add name).marks[s.current + 1]? = some d.nextMark := by
    rw [hmarks', ← hposition, List.getElem?_append_right (Nat.le_refl _), Nat.sub_self]
    rfl
  have hc : s.cards[s.current]? = some c.card := by
    rw [h.cards, hsplit, List.map_append, List.map_cons, ← hlength]
    simp
  have hmove : (s.insertCard (d.newCard name c.card) (s.issued + 1)).moveTo (s.current + 1) false =
      _ := Scene.moveTo_of_ne (Nat.succ_ne_self _)
  rw [h.act_add hc, hmove, Deck.act]
  refine .ok ?_
  refine ⟨?_, hnext, .cons hcurrent ?_, ?_, ?_, congrArg (· + 1) h.issued⟩
  · have hcards : s.cards = (before ++ [c]).map MarkedCard.card ++ after.map MarkedCard.card := by
      rw [h.cards, hsplit, ← List.map_append, List.append_assoc, List.singleton_append]
    have hlength' : ((before ++ [c]).map MarkedCard.card).length = s.current + 1 := by
      rw [List.length_map, ← hposition, List.length_map]
    show s.cards.take (s.current + 1) ++ _ :: s.cards.drop (s.current + 1) = _
    rw [Deck.cards_add hsplit hmark hbefore hafter, List.map_append, List.map_cons, hcards,
      ← hlength', List.take_left, List.drop_left]
  · exact List.forall₂_map_left_iff.mpr (h.history.imp fun i mark hi => hshift i mark hi)
  · rw [hmarks', List.nodup_middle, ← hmarks]
    exact List.nodup_cons.mpr ⟨fun hmem => Nat.lt_irrefl _ (h.unused _ hmem), h.distinct⟩
  · intro mark hmem
    rw [hmarks'] at hmem
    rcases List.mem_append.mp hmem with hmem | hmem
    · exact Nat.lt_succ_of_lt (h.unused _ (hmarks ▸ List.mem_append_left _ hmem))
    · rcases List.mem_cons.mp hmem with rfl | hmem
      · exact Nat.lt_succ_self _
      · exact Nat.lt_succ_of_lt (h.unused _ (hmarks ▸ List.mem_append_right _ hmem))

/-- What is left of a history without the current card denotes the same other cards. -/
theorem forget {positions marks : List Nat}
    (hall : List.Forall₂ (fun i mark => d.marks[i]? = some mark) positions marks) :
    List.Forall₂ (fun i mark => d.marks[i]? = some mark ∧ i ≠ s.current)
      (positions.filter (· != s.current)) (marks.filter (· != d.current)) := by
  induction hall with
  | nil => exact .nil
  | @cons i mark positions marks hi _ ih =>
      have heq := h.eq_current_iff hi
      by_cases hcurrent : i = s.current
      · rw [List.filter_cons_of_neg (by simpa using hcurrent),
          List.filter_cons_of_neg (by simpa using heq.mp hcurrent)]
        exact ih
      · have hmark : mark ≠ d.current := fun hmark => hcurrent (heq.mpr hmark)
        rw [List.filter_cons_of_pos (by simpa using hcurrent),
          List.filter_cons_of_pos (by simpa using hmark)]
        exact .cons ⟨hi, hcurrent⟩ ih

/-- Deleting a card. -/
theorem delete : Agree (s.act .delete) (d.act .delete) := by
  obtain ⟨before, c, after, hsplit, hlength, hmark, hbefore, hafter⟩ := h.split
  have hcards : s.cards = before.map MarkedCard.card ++ c.card :: after.map MarkedCard.card := by
    rw [h.cards, hsplit, List.map_append, List.map_cons]
  by_cases hmany : before ++ after = []
  · have honly : s.deleteCard = .ok none := by
      obtain ⟨rfl, rfl⟩ := List.append_eq_nil_iff.mp hmany
      rw [Scene.deleteCard, hcards]
      rfl
    rw [Scene.act, honly, Deck.act, Deck.delete_only hsplit hmark hbefore hafter hmany]
    exact .ok h
  obtain ⟨next, hnext, hdelete⟩ := Deck.delete_eq hsplit hmark hbefore hafter hmany
  have hgone : s.cards[s.current]? = some c.card := by
    rw [hcards, ← hlength, ← List.length_map (f := MarkedCard.card)]
    simp
  have hfew : ¬s.cards.length ≤ 1 := by
    have hpos := List.length_pos_iff.mpr hmany
    rw [List.length_append] at hpos
    rw [hcards, List.length_append, List.length_cons, List.length_map, List.length_map]
    omega
  have hmarks : d.marks = before.map MarkedCard.mark ++ c.mark :: after.map MarkedCard.mark := by
    rw [Deck.marks, hsplit, List.map_append, List.map_cons]
  have herase : s.cards.eraseIdx s.current = (before ++ after).map MarkedCard.card := by
    rw [hcards, ← hlength, List.eraseIdx_append_of_length_le (by simp)]
    simp
  have hgoneMark : ((before.map MarkedCard.mark)).length = s.current := by
    rw [List.length_map, hlength]
  -- What is left in the history means the same as before.
  have hshift : ∀ i mark, d.marks[i]? = some mark → i ≠ s.current →
      ((before ++ after).map MarkedCard.mark)[if i > s.current then i - 1 else i]? = some mark := by
    intro i mark hi hne
    rw [List.map_append, ← hgoneMark, getElem?_shift_down _ _ c.mark (hgoneMark ▸ hne),
      ← hmarks, hi]
  have hdistinct : (before ++ after).map MarkedCard.mark |>.Nodup := by
    have hall := h.distinct
    rw [hmarks, List.nodup_middle, ← List.map_append] at hall
    exact (List.nodup_cons.mp hall).2
  rw [Scene.act, Scene.deleteCard, if_neg hfew, hgone, Deck.act, hdelete]
  refine .ok ⟨herase, ?_, ?_, hdistinct, ?_, h.issued⟩
  · show ((before ++ after).map MarkedCard.mark)[min s.current
      ((s.cards.eraseIdx s.current).length - 1)]? = some next.mark
    rw [herase, List.length_map, List.getElem?_map, ← hlength, getElem?_successor hnext,
      Option.map_some]
  · refine List.forall₂_map_left_iff.mpr ((h.forget h.history).imp fun i mark hi => ?_)
    exact hshift i mark hi.1 hi.2
  · intro mark hmem
    refine h.unused mark (hmarks ▸ ?_)
    have hmem : mark ∈ (before ++ after).map MarkedCard.mark := hmem
    rw [List.map_append] at hmem
    rcases List.mem_append.mp hmem with hmem | hmem
    · exact List.mem_append_left _ hmem
    · exact List.mem_append_right _ (List.mem_cons_of_mem _ hmem)

/-- **A move keeps a scene and a deck in step, or fails for both with the same fault.** -/
theorem act {move : Move} (hmove : s.Allows move) : Agree (s.act move) (d.act move) := by
  cases move with
  | goTo i => exact h.goTo hmove
  | back => exact h.back
  | add name => exact h.add name
  | delete => exact h.delete

/-- Tours keep a scene and a deck in step. -/
theorem tour {moves : List Move} (hmoves : s.AllowsAll moves) :
    (tour Scene.act s moves).1 = (CardTalk.tour Deck.act d moves).1 ∧
      InStep (CardTalk.tour Scene.act s moves).2 (CardTalk.tour Deck.act d moves).2 := by
  induction moves generalizing s d with
  | nil => exact ⟨rfl, h⟩
  | cons move rest ih =>
      obtain ⟨hmove, hrest⟩ := hmoves
      have hagree := h.act hmove
      generalize hs : s.act move = outcome at hagree hrest
      generalize hd : d.act move = outcome' at hagree
      simp only [CardTalk.tour, hs, hd]
      cases hagree with
      | ok h' =>
          obtain ⟨hfaults, hstep⟩ := ih h' hrest
          exact ⟨congrArg (none :: ·) hfaults, hstep⟩
      | error f =>
          obtain ⟨hfaults, hstep⟩ := ih h hrest
          exact ⟨congrArg (some f :: ·) hfaults, hstep⟩

end InStep

/-- A scene is in step with its deck at the start. -/
theorem inStep_ofScene {s : Scene} (hs : s.navigation.WellFormed) : InStep s (.ofScene s) := by
  have hmarks : (Deck.ofScene s).marks = List.range s.cards.length := by
    refine List.ext_getElem (by simp [Deck.marks, Deck.ofScene]) fun i hi hi' => ?_
    simp [Deck.marks, Deck.ofScene]
  have hlt : ∀ i, i < s.cards.length → (Deck.ofScene s).marks[i]? = some i := by
    intro i hi
    rw [hmarks, List.getElem?_range hi]
  refine ⟨?_, hlt _ hs.current, ?_, ?_, ?_, rfl⟩
  · refine List.ext_getElem (by simp [Deck.ofScene]) fun i hi hi' => ?_
    simp [Deck.ofScene]
  · exact List.forall₂_same.mpr fun i hi => hlt i (hs.history i hi)
  · rw [hmarks]
    exact List.nodup_range
  · intro mark hmem
    rw [hmarks] at hmem
    exact List.mem_range.mp hmem

/-- **Every tour of a scene is one of its deck**: after any moves the history of positions
denotes the history of cards, and the same moves have failed with the same faults. -/
theorem tour_inStep {s : Scene} (hs : s.navigation.WellFormed) {moves : List Move}
    (hmoves : s.AllowsAll moves) :
    let d := Deck.ofScene s
    (tour Scene.act s moves).1 = (tour Deck.act d moves).1 ∧
      InStep (tour Scene.act s moves).2 (tour Deck.act d moves).2 :=
  (inStep_ofScene hs).tour hmoves

/-- A card is added between others and one of the history is deleted; the way back leads to
the new card and past the deleted one, and then there is nothing to go back to. -/
theorem tour_inStep_detour :
    let s := Scene.assemble (.usual "s") []
      [.usual "a" "A", .usual "b" "B", .usual "c" "C", .usual "d" "D"] 1 0
    let moves : List Move := [.goTo 2, .add none, .goTo 1, .delete, .back, .back, .back]
    s.navigation.WellFormed ∧ s.AllowsAll moves ∧
      InStep (tour Scene.act s moves).2 (tour Deck.act (.ofScene s) moves).2 ∧
      (tour Scene.act s moves).1 =
        [none, none, none, none, none, none, some .noHistory] ∧
      (tour Scene.act s moves).2.navigation = ⟨4, 1, []⟩ := by
  intro s moves
  have hs : s.navigation.WellFormed := by decide
  have hmoves : s.AllowsAll moves := by decide +kernel
  exact ⟨hs, hmoves, (tour_inStep hs hmoves).2, by decide +kernel, by decide +kernel⟩

end CardTalk
