/-
What a target means.

The words of a target tell where to look and what for (`Target`); which places it names then
depends on the scene, on the card the user is on and on the variables, and is said by
`Scene.Names` for each kind of target.  Looking a target up finds a place that it names, and
finds nothing only if it names none (`locate_cases`).  There is one exception, which is meant:
a card that does not exist stands for the current card (`cardNamed_cases`).
-/
import CardTalk.Proofs.Scene.Near
import CardTalk.Scene.Target

namespace CardTalk

/-- Whether an object answers to a name where it is looked for.  On a layer it may have the empty
name, and elsewhere it may not. -/
def Part.answers (layer : Option Layer) (p : Part) (name : Text) : Bool :=
  match layer with
  | none => p.isNamed name
  | some _ => p.answersTo name

namespace Scene

/-! ### Places that are named -/

/-- The objects on a layer, or on both if none is given. -/
def onLayer (s : Scene) (c : Card) : Option Layer → List (Place × Part)
  | none => s.near c
  | some .card => c.placed s.current
  | some .background => (s.backgroundOf c).elim [] fun r => r.2.placed r.1

/-- A target names a place, for a user on a card. -/
inductive Names (s : Scene) (c : Card) (v : Variables) : Target → Place → Prop
  /-- What the event came from. -/
  | origin {id : Text} {place : Place} {x : Entity} (horigin : v.context.origin = some id)
      (hid : id ≠ []) (hplace : place ∈ s.around c) (hx : s.entity? place = some x)
      (h : x.id = id) : Names s c v .origin place
  | stack : Names s c v .stack .stack
  | thisCard : Names s c v (.card none) (.card s.current)
  | cardNumbered {name : Text} {n : Int} (hname : name ≠ []) (hdigits : ∀ d ∈ name, Text.isDigit d)
      (hn : Number.leadingInt? name = .ok (some n)) (hrange : 1 ≤ n ∧ n ≤ s.cards.length) :
      Names s c v (.card (some name)) (.card (n - 1).toNat)
  | cardNamed {name : Text} {i : Nat} {card : Card} (hcard : s.cards[i]? = some card)
      (h : card.answersTo name) : Names s c v (.card (some name)) (.card i)
  | thisBackground {i : Nat} {b : Background} (h : s.backgroundOf c = some (i, b)) :
      Names s c v (.background none) (.background i)
  | backgroundNamed {name : Text} {i : Nat} {b : Background} (hb : s.backgrounds[i]? = some b)
      (h : b.answersTo name) : Names s c v (.background (some name)) (.background i)
  | object {layer : Option Layer} {kind : Option Part.Kind} {name : Text} {bare : Bool}
      {r : Place × Part} (hr : r ∈ s.onLayer c layer) (hkind : ∀ k ∈ kind, k = r.2.kind)
      (h : r.2.answers layer name) : Names s c v (.object layer kind name bare) r.1
  /-- What the variable of that name holds, if the name is not in quotes. -/
  | held {layer : Option Layer} {kind : Option Part.Kind} {name value : Text} {r : Place × Part}
      (hheld : v.lookup? name = some value) (hvalue : value ≠ []) (hr : r ∈ s.onLayer c layer)
      (hkind : ∀ k ∈ kind, k = r.2.kind) (h : r.2.answers layer value) :
      Names s c v (.object layer kind name true) r.1

variable {s : Scene} {c : Card} {v : Variables}

/-! ### Looking up -/

theorem findObject_eq (hcard : s.cards[s.current]? = some c) (name : Text)
    (kind : Option Part.Kind) (layer : Option Layer) :
    s.findObject name kind layer = .ok (((s.onLayer c layer).find? fun r =>
      kind.all (· == r.2.kind) && r.2.answers layer name).map Prod.fst) := by
  match layer with
  | none =>
      show (do
        let parts ← s.nearest
        return (parts.find? fun r => kind.all (· == r.2.kind) && r.2.isNamed name).map Prod.fst
          : Except Fault (Option Place)) = _
      rw [nearest_ok hcard]
      rfl
  | some .card =>
      simp only [findObject, currentCard_ok hcard]
      rfl
  | some .background =>
      simp only [findObject, currentBackground, currentCard_ok hcard, bind, Except.bind, pure,
        Except.pure, onLayer]
      cases s.backgroundOf c with
      | none => rfl
      | some r => rfl

/-- What is found by a name is an object on the layer that is of the kind and answers to it. -/
theorem findObject_cases (hcard : s.cards[s.current]? = some c) (name : Text)
    (kind : Option Part.Kind) (layer : Option Layer) :
    (∃ r ∈ s.onLayer c layer, s.findObject name kind layer = .ok (some r.1) ∧
      (∀ k ∈ kind, k = r.2.kind) ∧ r.2.answers layer name) ∨
    s.findObject name kind layer = .ok none ∧
      ∀ r ∈ s.onLayer c layer, (∀ k ∈ kind, k = r.2.kind) → ¬r.2.answers layer name := by
  have hkind : ∀ r : Place × Part, kind.all (· == r.2.kind) = true ↔ ∀ k ∈ kind, k = r.2.kind :=
    fun r => by simp [Option.all_eq_true]
  rw [findObject_eq hcard]
  cases hfind : (s.onLayer c layer).find? fun r =>
      kind.all (· == r.2.kind) && r.2.answers layer name with
  | some r =>
      have hmatches := List.find?_some hfind
      obtain ⟨hof, hanswers⟩ := Bool.and_eq_true_iff.mp hmatches
      exact .inl ⟨r, List.mem_of_find?_eq_some hfind, rfl, (hkind r).mp hof, hanswers⟩
  | none =>
      refine .inr ⟨rfl, fun r hr hof hanswers => ?_⟩
      have hanswered := Bool.and_eq_true_iff.mpr ⟨(hkind r).mpr hof, hanswers⟩
      exact List.find?_eq_none.mp hfind r hr hanswered

/-- Where no object has the name, an object with the name that its variable holds is found. -/
theorem findObjectOrHeld_cases (hcard : s.cards[s.current]? = some c) (layer : Option Layer)
    (kind : Option Part.Kind) (name : Text) (bare : Bool) :
    (∃ place, s.findObjectOrHeld v name kind layer bare = .ok (some place) ∧
      s.Names c v (.object layer kind name bare) place) ∨
    s.findObjectOrHeld v name kind layer bare = .ok none ∧
      ∀ place, ¬s.Names c v (.object layer kind name bare) place := by
  rcases findObject_cases hcard name kind layer with
    ⟨r, hr, hfind, hkind, hanswers⟩ | ⟨hfind, hmissed⟩
  · refine .inl ⟨r.1, ?_, .object hr hkind hanswers⟩
    rw [findObjectOrHeld, hfind]
    rfl
  rw [findObjectOrHeld, hfind]
  cases bare with
  | false =>
      refine .inr ⟨rfl, fun place h => ?_⟩
      cases h with
      | object hr hkind hanswers => exact hmissed _ hr hkind hanswers
  | true =>
      rcases hlookup : v.lookup? name with _ | (_ | ⟨a, value⟩)
      · refine .inr ⟨rfl, fun place h => ?_⟩
        cases h with
        | object hr hkind hanswers => exact hmissed _ hr hkind hanswers
        | held hvalue => cases hlookup.symm.trans hvalue
      · refine .inr ⟨rfl, fun place h => ?_⟩
        cases h with
        | object hr hkind hanswers => exact hmissed _ hr hkind hanswers
        | held hvalue hne => exact hne (Option.some.inj (hvalue.symm.trans hlookup))
      · rcases findObject_cases hcard (a :: value) kind layer with
          ⟨r, hr, hfind', hkind, hanswers⟩ | ⟨hfind', hmissed'⟩
        · exact .inl ⟨r.1, hfind', .held hlookup (List.cons_ne_nil a value) hr hkind hanswers⟩
        · refine .inr ⟨hfind', fun place h => ?_⟩
          cases h with
          | object hr hkind hanswers => exact hmissed _ hr hkind hanswers
          | held hvalue _ hr hkind hanswers =>
              obtain rfl := Option.some.inj (hvalue.symm.trans hlookup)
              exact hmissed' _ hr hkind hanswers

/-- What the event came from is found around the user. -/
theorem origin_cases (hcard : s.cards[s.current]? = some c) :
    (∃ place, s.findById v.context.origin = .ok (some place) ∧ s.Names c v .origin place) ∨
      s.findById v.context.origin = .ok none ∧ ∀ place, ¬s.Names c v .origin place := by
  match horigin : v.context.origin with
  | none =>
      refine .inr ⟨rfl, fun place h => ?_⟩
      cases h with
      | origin hid => exact nomatch horigin.symm.trans hid
  | some [] =>
      refine .inr ⟨rfl, fun place h => ?_⟩
      cases h with
      | origin hid hne => exact hne (Option.some.inj (hid.symm.trans horigin))
  | some (a :: id) =>
      rw [findById_around hcard (List.cons_ne_nil a id)]
      cases hfind : (s.around c).find? fun place =>
          (s.entity? place).any fun x => x.id == a :: id with
      | some place =>
          have hmatches := List.find?_some hfind
          cases hx : s.entity? place with
          | none =>
              rw [hx] at hmatches
              exact nomatch hmatches
          | some x =>
              rw [hx] at hmatches
              exact .inl ⟨place, rfl, .origin horigin (List.cons_ne_nil a id)
                (List.mem_of_find?_eq_some hfind) hx (beq_iff_eq.mp hmatches)⟩
      | none =>
          refine .inr ⟨rfl, fun place h => ?_⟩
          cases h with
          | origin hid hne hplace hx h =>
              obtain rfl := Option.some.inj (hid.symm.trans horigin)
              have hno := List.find?_eq_none.mp hfind _ hplace
              rw [hx, Option.any_some, h, beq_self_eq_true] at hno
              exact hno rfl

/-- A background is found by its name, or by its identifier. -/
theorem findBackground?_cases (name : Text) :
    (∃ place, (s.findBackground? name).map .background = some place ∧
      s.Names c v (.background (some name)) place) ∨
    s.findBackground? name = none ∧ ∀ place, ¬s.Names c v (.background (some name)) place := by
  rw [findBackground?]
  cases hfind : s.backgrounds.findIdx? fun b => b.answersTo name with
  | some i =>
      obtain ⟨hi, hanswers, -⟩ := List.findIdx?_eq_some_iff_getElem.mp hfind
      exact .inl ⟨_, rfl, .backgroundNamed (List.getElem?_eq_getElem hi) hanswers⟩
  | none =>
      refine .inr ⟨rfl, fun place h => ?_⟩
      cases h with
      | backgroundNamed hb hanswers =>
          have hno := List.findIdx?_eq_none_iff.mp hfind _ (List.mem_of_getElem? hb)
          exact Bool.false_ne_true (hno.symm.trans hanswers)

/-- **What is found for a target is a place that it names, and nothing is found only if it names
none**, unless it is a card with a name or its kind is misspelled. -/
theorem locate_cases (hcard : s.cards[s.current]? = some c) {t : Target}
    (ht : ∀ name, t ≠ .card (some name)) (hspelled : ∀ word, t ≠ .misspelled word) :
    (∃ place, s.locate v t = .ok (some place) ∧ s.Names c v t place) ∨
      s.locate v t = .ok none ∧ ∀ place, ¬s.Names c v t place := by
  match t with
  | .origin => exact origin_cases hcard
  | .stack => exact .inl ⟨_, rfl, .stack⟩
  | .card none =>
      refine .inl ⟨_, ?_, .thisCard⟩
      rw [locate, currentCard_ok hcard]
      rfl
  | .card (some name) => exact absurd rfl (ht name)
  | .background none =>
      have hlocate : s.locate v (.background none) =
          .ok ((s.backgroundOf c).map fun b => .background b.1) := by
        rw [locate, currentBackground, currentCard_ok hcard]
        rfl
      rw [hlocate]
      cases hbackground : s.backgroundOf c with
      | none =>
          refine .inr ⟨rfl, fun place h => ?_⟩
          cases h with
          | thisBackground h => exact nomatch hbackground.symm.trans h
      | some r => exact .inl ⟨_, rfl, .thisBackground hbackground⟩
  | .background (some name) =>
      rcases findBackground?_cases name with ⟨place, hfind, hnames⟩ | ⟨hfind, hnames⟩
      · exact .inl ⟨place, congrArg Except.ok hfind, hnames⟩
      · exact .inr ⟨by rw [locate, hfind]; rfl, hnames⟩
  | .object layer kind name bare => exact findObjectOrHeld_cases hcard layer kind name bare
  | .misspelled word => exact absurd rfl (hspelled word)

/-- Where nothing is found, nothing is named. -/
theorem not_names_of_locate (hcard : s.cards[s.current]? = some c) {t : Target}
    (h : s.locate v t = .ok none) (ht : ∀ name, t ≠ .card (some name)) :
    ∀ place, ¬s.Names c v t place := by
  have hspelled : ∀ word, t ≠ .misspelled word := by
    rintro word rfl
    exact nomatch h
  rcases locate_cases hcard ht hspelled with ⟨place, hlocate, -⟩ | ⟨-, hnames⟩
  · exact nomatch h.symm.trans hlocate
  · exact hnames

/-- The number that the name of a card is, if it is one. -/
def askedNumber (name : Text) : Except Fault (Option Int) :=
  if !name.isEmpty && name.all Text.isDigit then Number.leadingInt? name else .ok none

theorem all_isDigit_iff {name : Text} :
    (!name.isEmpty && name.all Text.isDigit) = true ↔ name ≠ [] ∧ ∀ d ∈ name, Text.isDigit d := by
  rw [Bool.and_eq_true, List.all_eq_true, Bool.not_eq_true', List.isEmpty_eq_false_iff]

theorem of_askedNumber {name : Text} {n : Int} (h : askedNumber name = .ok (some n)) :
    (name ≠ [] ∧ ∀ d ∈ name, Text.isDigit d) ∧ Number.leadingInt? name = .ok (some n) := by
  rw [askedNumber] at h
  split at h
  · rename_i hdigits
    exact ⟨all_isDigit_iff.mp hdigits, h⟩
  · cases h

/-- The position of the card with a number, if there is one, or else of the one with a name, or
else of the current one. -/
def meantCard (s : Scene) (name : Text) (number : Option Int) : Nat :=
  match number.filter fun n : Int => decide (1 ≤ n ∧ n ≤ s.cards.length) with
  | some n => (n - 1).toNat
  | none => (s.findCard? name).getD s.current

theorem cardNamed_eq (hcard : s.cards[s.current]? = some c) (name : Text) :
    s.cardNamed name = (askedNumber name).map fun number => .card (s.meantCard name number) := by
  rw [cardNamed, askedNumber]
  by_cases hname : (!name.isEmpty && name.all Text.isDigit) = true
  · rw [if_pos hname, if_pos hname]
    cases Number.leadingInt? name with
    | error f => rfl
    | ok number =>
        simp only [bind, Except.bind, pure, Except.pure, Except.map, currentCard_ok hcard,
          meantCard]
        cases number.filter fun n : Int => decide (1 ≤ n ∧ n ≤ s.cards.length) with
        | some n => rfl
        | none => cases s.findCard? name <;> rfl
  · rw [if_neg hname, if_neg hname]
    simp only [bind, Except.bind, pure, Except.pure, Except.map, currentCard_ok hcard, meantCard,
      Option.filter_none]
    cases s.findCard? name <;> rfl

/-- **A card with a number or a name that no card has stands for the current card.**  Only a number
with too many digits is a fault. -/
theorem locate_card_cases (hcard : s.cards[s.current]? = some c) (name : Text) :
    (∃ place, s.locate v (.card (some name)) = .ok (some place) ∧
      s.Names c v (.card (some name)) place) ∨
    ((∀ place, ¬s.Names c v (.card (some name)) place) ∧
      s.locate v (.card (some name)) = .ok (some (.card s.current))) ∨
    ∃ f, askedNumber name = .error f ∧ s.locate v (.card (some name)) = .error f := by
  rw [locate, cardNamed_eq hcard]
  cases hnumber : askedNumber name with
  | error f => exact .inr (.inr ⟨f, rfl, rfl⟩)
  | ok number =>
      have hlocate : (do return some (← (Except.ok number).map fun number =>
          Place.card (s.meantCard name number)) : Except Fault (Option Place)) =
            .ok (some (.card (s.meantCard name number))) := rfl
      rw [hlocate, meantCard]
      cases hn : number.filter fun n : Int => decide (1 ≤ n ∧ n ≤ s.cards.length) with
      | some n =>
          obtain ⟨rfl, hrange⟩ := Option.filter_eq_some_iff.mp hn
          obtain ⟨⟨hname, hdigits⟩, hnumber⟩ := of_askedNumber hnumber
          exact .inl ⟨_, rfl, .cardNumbered hname hdigits hnumber (of_decide_eq_true hrange)⟩
      | none =>
          cases hfind : s.findCard? name with
          | some i =>
              obtain ⟨hi, hanswers, -⟩ := List.findIdx?_eq_some_iff_getElem.mp hfind
              exact .inl ⟨_, rfl, .cardNamed (List.getElem?_eq_getElem hi) hanswers⟩
          | none =>
              refine .inr (.inl ⟨fun place h => ?_, rfl⟩)
              cases h with
              | cardNumbered hname hdigits hn' hrange =>
                  rw [askedNumber, if_pos (all_isDigit_iff.mpr ⟨hname, hdigits⟩), hn'] at hnumber
                  obtain rfl := Except.ok.inj hnumber
                  rw [Option.filter_some, if_pos (decide_eq_true hrange)] at hn
                  exact nomatch hn
              | cardNamed hcard' hanswers =>
                  have hno := List.findIdx?_eq_none_iff.mp hfind _ (List.mem_of_getElem? hcard')
                  exact Bool.false_ne_true (hno.symm.trans hanswers)

end Scene

end CardTalk
