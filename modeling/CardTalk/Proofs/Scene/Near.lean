/-
The objects on a card and on its background, with their places.

Lookups by name or identifier go through the objects near the user: those of the current card
and then those of its background.  Each is listed with its place, and this file shows that it
is there.  An identifier may also be that of the current card, its background or the stack, so
it is looked for at the places around the user.
-/
import CardTalk.Scene.Basic
import Mathlib.Data.List.Find

namespace CardTalk.Scene

variable {s : Scene} {c : Card}

theorem backgroundOf_some {k : Nat} {b : Background} (h : s.backgroundOf c = some (k, b)) :
    s.backgrounds[k]? = some b := by
  obtain ⟨j, -, hj⟩ := Option.bind_eq_some_iff.mp h
  obtain ⟨b', hb', heq⟩ := Option.bind_eq_some_iff.mp hj
  obtain ⟨rfl, rfl⟩ : j = k ∧ b' = b := Prod.mk.inj (Option.some.inj heq)
  exact hb'

theorem entity?_placed_card {i : Nat} (hcard : s.cards[i]? = some c) {r : Place × Part}
    (hr : r ∈ c.placed i) : s.entity? r.1 = some (.part r.2) := by
  obtain ⟨k, hk, rfl⟩ := List.mem_mapIdx.mp hr
  simp [entity?, hcard, List.getElem?_eq_getElem hk]

theorem entity?_placed_background {k : Nat} {b : Background}
    (hbackground : s.backgrounds[k]? = some b) {r : Place × Part} (hr : r ∈ b.placed k) :
    s.entity? r.1 = some (.part r.2) := by
  obtain ⟨j, hj, rfl⟩ := List.mem_mapIdx.mp hr
  simp [entity?, hbackground, List.getElem?_eq_getElem hj]

/-- The objects of a card that is current and then those of its background, with their
places. -/
def near (s : Scene) (c : Card) : List (Place × Part) :=
  c.placed s.current ++ (s.backgroundOf c).elim [] fun r => r.2.placed r.1

theorem currentCard_ok (hcard : s.cards[s.current]? = some c) : s.currentCard = .ok c := by
  rw [currentCard, cardAt, hcard]

theorem nearest_eq (s : Scene) : s.nearest = s.currentCard.map s.near := by
  simp only [nearest, bind, pure]
  cases s.currentCard with
  | error f => rfl
  | ok c =>
      simp only [Except.bind, Except.map, near]
      cases s.backgroundOf c with
      | none => rfl
      | some r => rfl

theorem nearest_ok (hcard : s.cards[s.current]? = some c) : s.nearest = .ok (s.near c) := by
  rw [nearest_eq, currentCard_ok hcard]
  rfl

theorem entity?_near (hcard : s.cards[s.current]? = some c) {r : Place × Part}
    (hr : r ∈ s.near c) : s.entity? r.1 = some (.part r.2) := by
  rcases List.mem_append.mp hr with hown | hbelow
  · exact entity?_placed_card hcard hown
  · cases hbackground : s.backgroundOf c with
    | none =>
        rw [hbackground] at hbelow
        exact absurd hbelow List.not_mem_nil
    | some r =>
        rw [hbackground] at hbelow
        exact entity?_placed_background (backgroundOf_some hbackground) hbelow

/-- The places where an identifier is looked for: the objects near the user, the current card, its
background and the stack. -/
def around (s : Scene) (c : Card) : List Place :=
  (s.near c).map Prod.fst ++ [.card s.current] ++
    ((s.backgroundOf c).map fun r => Place.background r.1).toList ++ [.stack]

/-- Among the objects near the user an identifier is found at the place of the first one that has
it. -/
theorem find?_near (hcard : s.cards[s.current]? = some c) (id : Text) :
    ((s.near c).map Prod.fst).find? (fun place => (s.entity? place).any fun x => x.id == id) =
      ((s.near c).find? fun r => r.2.id == id).map Prod.fst := by
  rw [List.find?_map]
  refine congrArg _ (List.find?_congr fun r hr => ?_)
  show (s.entity? r.1).any _ = _
  rw [entity?_near hcard hr]
  rfl

/-- Looking for an identifier finds the first place around the user that has it. -/
theorem findById_around (hcard : s.cards[s.current]? = some c) {id : Text} (hid : id ≠ []) :
    s.findById (some id) =
      .ok ((s.around c).find? fun place => (s.entity? place).any fun x => x.id == id) := by
  obtain ⟨a, id, rfl⟩ := List.exists_cons_of_ne_nil hid
  let has : Place → Bool := fun place => (s.entity? place).any fun x => x.id == a :: id
  have hnear : ((s.near c).map Prod.fst).find? has = _ := find?_near hcard (a :: id)
  have hcurrent : has (.card s.current) = (c.id == a :: id) := by
    show (s.entity? (.card s.current)).any _ = _
    rw [entity?, hcard]
    rfl
  have hstack : has .stack = (s.stack.id == a :: id) := rfl
  show _ = Except.ok ((s.around c).find? has)
  simp only [findById, nearest_ok hcard, currentCard_ok hcard, bind, Except.bind, pure, Except.pure,
    around, List.find?_append, hnear, List.find?_singleton, hcurrent, hstack]
  cases (s.near c).find? fun r => r.2.id == a :: id with
  | some r => rfl
  | none =>
      dsimp only [Option.map_none, Option.none_or]
      by_cases hc : (c.id == a :: id) = true
      · rw [if_pos hc, if_pos hc]
        rfl
      · rw [if_neg hc, if_neg hc]
        cases hbackground : s.backgroundOf c with
        | none => rfl
        | some r =>
            have hbelow : has (.background r.1) = (r.2.id == a :: id) := by
              show (s.entity? (.background r.1)).any _ = _
              rw [entity?, backgroundOf_some hbackground]
              rfl
            dsimp only [Option.map_some, Option.toList_some]
            rw [List.find?_singleton, hbelow]
            split <;> rfl

end CardTalk.Scene
