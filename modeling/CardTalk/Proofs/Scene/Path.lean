/-
Whom an event is offered to.

An event goes along a path that is fixed when it comes: the object it comes from, the current
card, its background and the stack.  Off the cards there is no path, and no offer.
-/
import CardTalk.Engine.Navigation
import CardTalk.Proofs.Scene.Navigation
import CardTalk.Proofs.Scene.Near

namespace CardTalk

namespace Scene

/-- A reference made just now means what is at its place. -/
theorem referred?_refer (s : Scene) (place : Place) :
    s.referred? (s.refer place) = s.entity? place := by
  rw [referred?, refer, Nat.sub_self]
  rfl

theorem scriptOf_refer (s : Scene) (place : Place) :
    s.scriptOf (s.refer place) = ((s.entity? place).map Entity.script).getD [] := by
  rw [scriptOf, referred?_refer]

variable {s : Scene} {c : Card}

/-- The first of the objects near the user that has an identifier. -/
def origin? (s : Scene) (c : Card) : Option Text → Option Place
  | none | some [] => none
  | some id => ((s.near c).find? fun r => r.2.id == id).map Prod.fst

/-- The object that an event comes from, the current card, its background if it has one, and
the stack. -/
def path (s : Scene) (c : Card) (origin : Option Text) : List Place :=
  (s.origin? c origin).toList ++ [.card s.current] ++
    ((s.backgroundOf c).map fun r => Place.background r.1).toList ++ [.stack]

/-- The current card, its background and the stack are no objects. -/
theorem not_isPart_around : ∀ place ∈ [Place.card s.current] ++
    (((s.backgroundOf c).map fun r => Place.background r.1).toList ++ [.stack]),
    ¬(s.entity? place).any Entity.isPart := by
  have hcard : ∀ i, ¬(s.entity? (.card i)).any Entity.isPart := by
    intro i
    rw [entity?]
    cases s.cards[i]? <;> exact Bool.false_ne_true
  have hbackground : ∀ i, ¬(s.entity? (.background i)).any Entity.isPart := by
    intro i
    rw [entity?]
    cases s.backgrounds[i]? <;> exact Bool.false_ne_true
  intro place hplace
  rcases List.mem_append.mp hplace with hplace | hplace
  · rw [List.mem_singleton.mp hplace]
    exact hcard _
  · rcases List.mem_append.mp hplace with hplace | hplace
    · obtain ⟨r, -, rfl⟩ := Option.map_eq_some_iff.mp (Option.mem_toList.mp hplace)
      exact hbackground _
    · rw [List.mem_singleton.mp hplace]
      exact Bool.false_ne_true

/-- Looking for an identifier finds the object that has it, or something that is no object. -/
theorem findById_eq (hcard : s.cards[s.current]? = some c) (origin : Option Text) :
    ∃ found, s.findById origin = .ok found ∧
      found.toList.filter (fun place => (s.entity? place).any Entity.isPart) =
        (s.origin? c origin).toList := by
  match origin with
  | none => exact ⟨none, rfl, rfl⟩
  | some [] => exact ⟨none, rfl, rfl⟩
  | some (a :: id) =>
      refine ⟨_, findById_around hcard (List.cons_ne_nil a id), ?_⟩
      have horigin : s.origin? c (some (a :: id)) =
        ((s.near c).find? fun r => r.2.id == a :: id).map Prod.fst := rfl
      rw [around, List.append_assoc, List.append_assoc, List.find?_append, find?_near hcard, horigin]
      cases hfind : (s.near c).find? fun r => r.2.id == a :: id with
      | some r =>
          have hpart := entity?_near hcard (List.mem_of_find?_eq_some hfind)
          simp [hpart, Entity.isPart]
      | none =>
          rw [Option.map_none, Option.none_or]
          refine List.filter_eq_nil_iff.mpr fun place hplace => ?_
          exact not_isPart_around place (List.mem_of_find?_eq_some (Option.mem_toList.mp hplace))

/-- While the user is on a card, the candidates are the path. -/
theorem candidates_eq (hcard : s.cards[s.current]? = some c) (origin : Option Text) :
    s.candidates origin = .ok (s.path c origin) := by
  obtain ⟨found, hfound, hobject⟩ := findById_eq hcard origin
  simp only [candidates, hfound, currentCard_ok hcard, bind, Except.bind, pure, Except.pure,
    hobject, path]
  cases s.backgroundOf c with
  | none => rfl
  | some r => rfl

/-- Without a current card there are no candidates. -/
theorem candidates_nowhere (hcurrent : ¬s.HasCurrent) (origin : Option Text) :
    s.candidates origin = .error .noCurrentCard := by
  have hcard : s.currentCard = .error .noCurrentCard := by
    rw [currentCard, cardAt, List.getElem?_eq_none (Nat.le_of_not_lt hcurrent)]
  rcases origin with _ | (_ | ⟨a, id⟩)
  · simp only [candidates, findById, hcard, bind, Except.bind]
  · simp only [candidates, findById, hcard, bind, Except.bind]
  · simp only [candidates, findById, nearest, hcard, bind, Except.bind]

end Scene

namespace Engine

/-- While the user is on a card, an event is offered along the path that leads from the object it
comes from. -/
theorem offerWith_eq {e : Engine} {c : Card} (hcard : e.scene.cards[e.scene.current]? = some c)
    (dispatch : Dispatch) (event : Text) (origin : Option Text) :
    offerWith dispatch event origin e =
      offerTo dispatch event origin ((e.scene.path c origin).map e.scene.refer) e := by
  show (liftM (e.scene.candidates origin) >>= fun places =>
    offerTo dispatch event origin (places.map e.scene.refer) : Action Engine Bool) e = _
  rw [Scene.candidates_eq hcard]
  rfl

end Engine

end CardTalk
