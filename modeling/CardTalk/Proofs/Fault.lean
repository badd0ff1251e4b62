/-
How a computation can fail.

Evaluating an expression, finding a target and going to a card fail for few reasons: a number or a
text is not of the kind that is needed, a number is too large, the word for a kind is misspelled,
there is no such card, or there is no card where the user is (`Fault.Ordinary`).  A computation
fails in such a way as soon as its parts do, so this file goes through them from the numbers up
(`Expr.evaluate_ordinary`, `Scene.resolve_ordinary`).
-/
import CardTalk.Engine.Perform

namespace CardTalk

/-- The computation fails, if it does, with one of these faults. -/
structure FailsIn {α : Type} (faults : Fault → Prop) (x : Except Fault α) : Prop where
  fault : ∀ {f}, x = .error f → faults f

namespace FailsIn

variable {α β : Type} {faults faults' : Fault → Prop}

theorem ok (a : α) : FailsIn faults (.ok a : Except Fault α) := ⟨nofun⟩

theorem pure (a : α) : FailsIn faults (Pure.pure a : Except Fault α) := ⟨nofun⟩

theorem error {f : Fault} (h : faults f) : FailsIn faults (.error f : Except Fault α) :=
  ⟨fun hf => Except.error.inj hf ▸ h⟩

theorem mono {x : Except Fault α} (hx : FailsIn faults x) (h : ∀ f, faults f → faults' f) :
    FailsIn faults' x :=
  ⟨fun hf => h _ (hx.fault hf)⟩

theorem bind {x : Except Fault α} {next : α → Except Fault β} (hx : FailsIn faults x)
    (hnext : ∀ a, FailsIn faults (next a)) : FailsIn faults (x >>= next) := by
  cases x with
  | ok a => exact hnext a
  | error f => exact .error (hx.fault rfl)

theorem map {x : Except Fault α} (hx : FailsIn faults x) (g : α → β) :
    FailsIn faults (x.map g) := by
  cases x with
  | ok a => exact .ok _
  | error f => exact .error (hx.fault rfl)

theorem ite {p : Prop} [Decidable p] {x y : Except Fault α} (hx : FailsIn faults x)
    (hy : FailsIn faults y) : FailsIn faults (if p then x else y) := by
  split
  · exact hx
  · exact hy

theorem foldlM {step : β → α → Except Fault β} (hstep : ∀ b a, FailsIn faults (step b a)) :
    ∀ (l : List α) (b : β), FailsIn faults (l.foldlM step b)
  | [], b => .ok b
  | a :: l, b => .bind (hstep b a) fun b' => foldlM hstep l b'

theorem findSomeM? {find : α → Except Fault (Option β)} (hfind : ∀ a, FailsIn faults (find a)) :
    ∀ l : List α, FailsIn faults (l.findSomeM? find)
  | [] => .ok none
  | a :: l => by
    refine .bind (hfind a) fun found => ?_
    cases found with
    | some b => exact .ok _
    | none => exact findSomeM? hfind l

end FailsIn

/-- The faults that lie in numbers and texts, in a word for a kind, in the card that is asked for,
or in a current card that is not there. -/
inductive Fault.Ordinary : Fault → Prop
  | navigation {f : Fault} (h : f.kind = .navigation) : Ordinary f
  | value {f : Fault} (h : f.kind = .value) : Ordinary f
  | overflow {f : Fault} (h : f.kind = .overflow) : Ordinary f
  | noCurrentCard : Ordinary .noCurrentCard
  | misspelledKind (shown : Text) : Ordinary (.misspelledKind shown)

/-- The computation fails, if it does, with an ordinary fault. -/
abbrev FailsOrdinarily {α : Type} (x : Except Fault α) : Prop := FailsIn Fault.Ordinary x

/-! ### Numbers -/

namespace Number

theorem truncate_ordinary (x : Float) : FailsOrdinarily (truncate x) := by
  unfold truncate
  split
  · exact .ok _
  · exact .error (.overflow rfl)
  · exact .error (.value rfl)

theorem round_ordinary (x : Float) : FailsOrdinarily (round x) :=
  .bind (truncate_ordinary _) fun _ => .ok _

theorem remainder_ordinary (a b : Float) : FailsOrdinarily (remainder a b) := by
  unfold remainder
  split
  · exact .ok _
  · exact .ok _
  · exact .error (.value rfl)
  · exact .ok _
  · exact .ok _

theorem sum_ordinary (xs : List Float) : FailsOrdinarily (sum xs) := by
  have hadd : ∀ (s : Sum) (x : Float), FailsOrdinarily (s.add x) := by
    intro s x
    exact .ite (.ok _) (.ite (.error (.overflow rfl)) (.ok _))
  refine .bind (.foldlM hadd xs {}) fun s => ?_
  refine .ite (.error (.value rfl)) (.ite (.ok _) (.ite (.ok _) ?_))
  split
  · exact .ok _
  · exact .ok _

theorem ofInt_ordinary (n : Int) : FailsOrdinarily (ofInt n) :=
  .ite (.error (.overflow rfl)) (.ok _)

theorem integerOf_ordinary (negative : Bool) (digits : Text) :
    FailsOrdinarily (integerOf negative digits) :=
  .ite (.error (.value rfl)) (.ok _)

theorem leadingInt?_ordinary (t : Text) : FailsOrdinarily (leadingInt? t) :=
  .ite (.ok _) (.map (integerOf_ordinary ..) _)

theorem wholeInt?_ordinary (t : Text) : FailsOrdinarily (wholeInt? t) := by
  unfold wholeInt?
  dsimp only
  split
  · exact .ok _
  · exact .map (integerOf_ordinary ..) _

end Number

namespace Quantity

theorem toFloat_ordinary (q : Quantity) : FailsOrdinarily q.toFloat := by
  cases q with
  | int n => exact Number.ofInt_ordinary n
  | float x => exact .ok _

theorem plus_ordinary (q r : Quantity) : FailsOrdinarily (q.plus r) := by
  have hmixed : FailsOrdinarily (do return float ((← q.toFloat) + (← r.toFloat))) :=
    .bind q.toFloat_ordinary fun _ => .bind r.toFloat_ordinary fun _ => .ok _
  cases q <;> cases r <;> first | exact .ok _ | exact hmixed

theorem minus_ordinary (q r : Quantity) : FailsOrdinarily (q.minus r) := by
  have hmixed : FailsOrdinarily (do return float ((← q.toFloat) - (← r.toFloat))) :=
    .bind q.toFloat_ordinary fun _ => .bind r.toFloat_ordinary fun _ => .ok _
  cases q <;> cases r <;> first | exact .ok _ | exact hmixed

theorem half_ordinary (q : Quantity) : FailsOrdinarily q.half := by
  cases q with
  | int n => exact .ite (.error (.overflow rfl)) (.ok _)
  | float x => exact .ok _

theorem whole_ordinary (q : Quantity) : FailsOrdinarily q.whole := by
  cases q with
  | int n => exact .ok _
  | float x => exact Number.truncate_ordinary x

theorem coordinate_ordinary (q : Quantity) : FailsOrdinarily q.coordinate := by
  cases q with
  | int n => exact .bind (Number.ofInt_ordinary n) fun _ => .ok _
  | float x => exact .ok _

theorem text_ordinary (q : Quantity) : FailsOrdinarily q.text :=
  .bind q.toFloat_ordinary fun _ => .ok _

end Quantity

/-! ### Properties -/

namespace Property

theorem Geometry.read_ordinary (r : Rect) (g : Geometry) : FailsOrdinarily (g.read r) := by
  cases g with
  | left | top | width | height => exact Quantity.coordinate_ordinary _
  | right | bottom =>
      exact .bind (Quantity.plus_ordinary ..) fun _ => Quantity.coordinate_ordinary _
  | topLeft =>
      exact .bind (Quantity.coordinate_ordinary _) fun _ =>
        .bind (Quantity.coordinate_ordinary _) fun _ => .ok _
  | location =>
      refine .bind (Quantity.half_ordinary _) fun _ => .bind (Quantity.plus_ordinary ..) fun _ => ?_
      refine .bind (Quantity.half_ordinary _) fun _ => .bind (Quantity.plus_ordinary ..) fun _ => ?_
      exact .bind (Quantity.coordinate_ordinary _) fun _ =>
        .bind (Quantity.coordinate_ordinary _) fun _ => .ok _

theorem storedNumber_ordinary (current : Quantity) (x : Float) :
    FailsOrdinarily (storedNumber current x) := by
  cases current with
  | int n => exact .bind (Number.truncate_ordinary x) fun _ => .ok _
  | float y => exact .ok _

theorem lessHalf_ordinary (q r : Quantity) : FailsOrdinarily (lessHalf q r) :=
  .bind (Quantity.half_ordinary r) fun _ => Quantity.minus_ordinary ..

/-- Writing a geometric property breaks off, if it does, with an ordinary fault. -/
theorem Geometry.write_ordinary {r r' : Rect} {g : Geometry} {value : Text} {f : Fault}
    (h : g.write r value = some (r', some f)) : f.Ordinary := by
  unfold Geometry.write at h
  cases g with
  | topLeft =>
      obtain ⟨p, -, hp⟩ := Option.bind_eq_some_iff.mp h
      cases hp
  | location =>
      obtain ⟨p, -, hp⟩ := Option.bind_eq_some_iff.mp h
      dsimp only at hp
      split at hp
      · rename_i hx
        cases hp
        exact (lessHalf_ordinary ..).fault hx
      · rename_i hy
        cases hp
        exact (lessHalf_ordinary ..).fault hy
      · cases hp
  | left | top | width | height =>
      obtain ⟨x, -, hp⟩ := Option.bind_eq_some_iff.mp h
      cases hp
  | right | bottom =>
      obtain ⟨x, -, hp⟩ := Option.bind_eq_some_iff.mp h
      dsimp only at hp
      split at hp
      · cases hp
      · rename_i hfailed
        cases hp
        exact (Quantity.minus_ordinary ..).fault hfailed

/-- Writing an attribute breaks off, if it does, with an ordinary fault. -/
theorem writeAttribute_ordinary {x y : Entity} {n : Attribute.Name} {value : Text} {f : Fault}
    (h : writeAttribute x n value = .failed y f) : f.Ordinary := by
  unfold writeAttribute at h
  split at h
  · cases h
  · cases h
  · split at h
    · cases h
    · split at h
      · cases h
      · rename_i hstored
        cases h
        exact (storedNumber_ordinary ..).fault hstored
  · cases h

end Property

namespace Entity

open Property

theorem property?_ordinary (x : Entity) (name : Text) : FailsOrdinarily (x.property? name) := by
  unfold property?
  refine .ite (.ok _) ?_
  split
  · exact .map (Geometry.read_ordinary ..) _
  · split
    · rename_i a _
      refine .map ?_ _
      cases a with
      | number q => exact q.text_ordinary
      | _ => exact .ok _
    · exact .ok _

theorem setProperty_ordinary {x y : Entity} {name value : Text} {f : Fault}
    (h : x.setProperty name value = .failed y f) : f.Ordinary := by
  unfold setProperty at h
  dsimp only at h
  split at h
  · cases h
  · split at h
    · split at h
      · split at h
        · cases h
        · rename_i hwrite
          cases h
          exact Geometry.write_ordinary hwrite
        · cases h
      · cases h
    · split at h
      · exact writeAttribute_ordinary h
      · cases h

end Entity

/-! ### Finding entities -/

namespace Scene

variable (s : Scene)

theorem cardAt_ordinary (i : Nat) : FailsOrdinarily (s.cardAt i) := by
  unfold cardAt
  split
  · exact .ok _
  · exact .error .noCurrentCard

theorem currentCard_ordinary : FailsOrdinarily s.currentCard := s.cardAt_ordinary s.current

theorem placedOn_ordinary (i : Nat) : FailsOrdinarily (s.placedOn i) :=
  .bind (s.cardAt_ordinary i) fun _ => .ok _

theorem partsOn_ordinary (i : Nat) : FailsOrdinarily (s.partsOn i) :=
  .bind (s.placedOn_ordinary i) fun _ => .ok _

theorem currentBackground_ordinary : FailsOrdinarily s.currentBackground :=
  .bind s.currentCard_ordinary fun _ => .ok _

theorem nearest_ordinary : FailsOrdinarily s.nearest :=
  .bind s.currentCard_ordinary fun _ => .ok _

theorem findById_ordinary (id : Option Text) : FailsOrdinarily (s.findById id) := by
  unfold findById
  split
  · exact .ok _
  · exact .ok _
  · refine .bind s.nearest_ordinary fun _ => ?_
    split
    · exact .ok _
    · refine .bind s.currentCard_ordinary fun _ => .ite (.ok _) ?_
      split
      · exact .ite (.ok _) (.ok _)
      · exact .ok _

theorem findByName_ordinary (name : Text) (kind : Option Part.Kind) :
    FailsOrdinarily (s.findByName name kind) :=
  .bind s.nearest_ordinary fun _ => .ok _

theorem findObject_ordinary (name : Text) (kind : Option Part.Kind) (layer : Option Layer) :
    FailsOrdinarily (s.findObject name kind layer) := by
  unfold findObject
  split
  · exact s.findByName_ordinary ..
  · exact .bind s.currentCard_ordinary fun _ => .ok _
  · refine .bind s.currentBackground_ordinary fun found => ?_
    cases found with
    | some b => exact .ok _
    | none => exact .ok _

theorem findObjectOrHeld_ordinary (v : Variables) (name : Text) (kind : Option Part.Kind)
    (layer : Option Layer) (bare : Bool) :
    FailsOrdinarily (s.findObjectOrHeld v name kind layer bare) := by
  refine .bind (s.findObject_ordinary ..) fun found => ?_
  cases found with
  | some place => exact .ok _
  | none =>
      dsimp only
      split
      · exact .ok _
      · exact .ok _
      · exact s.findObject_ordinary ..

theorem cardNamed_ordinary (name : Text) : FailsOrdinarily (s.cardNamed name) := by
  unfold cardNamed
  dsimp only
  -- a name of digits is read as a number first
  split
  case' isTrue => refine .bind (Number.leadingInt?_ordinary name) fun number => ?_
  case' isFalse => refine .bind (.ok _) fun number => ?_
  all_goals
    split
    · exact .ok _
    · split
      · exact .ok _
      · exact .bind s.currentCard_ordinary fun _ => .ok _

theorem resolveTarget_ordinary (v : Variables) (t : Text) :
    FailsOrdinarily (s.resolveTarget v t) := by
  unfold resolveTarget locate
  split
  · exact s.findById_ordinary _
  · exact .ok _
  · exact .bind s.currentCard_ordinary fun _ => .ok _
  · exact .bind (s.cardNamed_ordinary _) fun _ => .ok _
  · exact .bind s.currentBackground_ordinary fun _ => .ok _
  · exact .ok _
  · exact s.findObjectOrHeld_ordinary ..
  · exact .error (.misspelledKind _)

theorem candidates_ordinary (origin : Option Text) : FailsOrdinarily (s.candidates origin) :=
  .bind (s.findById_ordinary origin) fun _ => .bind s.currentCard_ordinary fun _ => .ok _

/-! ### Going to cards -/

theorem numbered_ordinary (asked : Text) (n : Int) : FailsOrdinarily (s.numbered asked n) :=
  .ite (.error (.navigation rfl)) (.ok _)

theorem byKeyword_ordinary (k : Keyword) : FailsOrdinarily (s.byKeyword k) := by
  cases k with
  | back =>
      unfold byKeyword
      dsimp only
      split
      · exact .error (.navigation rfl)
      · exact .ok _
  | next => exact .ite (.error (.navigation rfl)) (.ok _)
  | previous => exact .ite (.error (.navigation rfl)) (.ok _)
  | first | last => exact .ok _

/-- Going to a destination that is a number or a text fails, if it does, with an ordinary fault. -/
theorem resolve_ordinary {destination : Value}
    (h : (∃ n, destination = .int n) ∨ ∃ t, destination = .text t) :
    FailsOrdinarily (s.resolve destination) := by
  have hasked : ∀ t, FailsOrdinarily (askedNumber? t) := by
    intro t
    unfold askedNumber?
    split
    · exact .ite (Number.leadingInt?_ordinary t) (.ok _)
    · exact .ok _
  have hnamed : ∀ t, FailsOrdinarily (s.named t) := by
    intro t
    unfold named
    dsimp only
    split
    · exact .ok _
    · exact .error (.navigation rfl)
  rcases h with ⟨n, rfl⟩ | ⟨t, rfl⟩
  · exact s.numbered_ordinary ..
  · refine .bind (hasked t) fun number => ?_
    cases number with
    | some n => exact s.numbered_ordinary ..
    | none =>
        dsimp only
        split
        · exact s.byKeyword_ordinary _
        · exact hnamed t

end Scene

theorem Find.Cursor.next?_ordinary (c : Find.Cursor) (s : Scene) (field : Option Text) :
    FailsOrdinarily (c.next? s field) :=
  .findSomeM? (fun _ => .bind (s.placedOn_ordinary _) fun _ => .ok _) _

theorem Console.render_ordinary (c : Console) (s : Scene) : FailsOrdinarily (c.render s) :=
  .bind (Scene.currentCard_ordinary _) fun _ => .bind (Scene.partsOn_ordinary ..) fun _ => .ok _

/-! ### Expressions -/

theorem Function.call_ordinary (s : Surroundings) (name : Text) (args : List Text) :
    FailsOrdinarily (Function.call s name args) := by
  unfold Function.call
  split
  · rename_i f _
    cases f with
    | random => exact .bind (Number.truncate_ordinary _) fun _ => .ok _
    | round => exact .bind (Number.round_ordinary _) fun _ => .ok _
    | trunc => exact .bind (Number.truncate_ordinary _) fun _ => .ok _
    | sum => exact .bind (Number.sum_ordinary _) fun _ => .ok _
    | _ => exact .ok _
  · exact .ok _

namespace Expr

theorem arithmetic_ordinary (op : BinaryOp) (a b : Float) :
    FailsOrdinarily (arithmetic op a b) := by
  unfold arithmetic
  split
  · exact .ok _
  · exact .ok _
  · exact .ok _
  · exact .ok _
  · exact .ite (.ok _) (.bind (Number.remainder_ordinary ..) fun _ => .ok _)
  · exact .ite (.ok _) (.bind (Number.truncate_ordinary _) fun _ => .ok _)

theorem applyBinary_ordinary (op : BinaryOp) (left right prose : Text) (unresolved : Bool) :
    FailsOrdinarily (applyBinary op left right prose unresolved) := by
  unfold applyBinary
  cases op with
  | modulo | quotient => exact .ite (arithmetic_ordinary ..) (.ok _)
  | add | subtract | multiply | divide => exact arithmetic_ordinary ..
  | _ => exact .ok _

theorem value_ordinary (v : View) (special : Special) : FailsOrdinarily (special.value v) := by
  unfold Special.value
  cases special with
  | width | height => exact Quantity.coordinate_ordinary _
  | buttonCount | fieldCount => exact .bind (v.scene.partsOn_ordinary _) fun _ => .ok _
  | _ => exact .ok _

theorem propertyValue?_ordinary (v : View) (text : Text) (tokens : List Token) :
    FailsOrdinarily (propertyValue? v text tokens) := by
  unfold propertyValue?
  split
  · exact .ok _
  · refine .bind (v.scene.resolveTarget_ordinary ..) fun found => ?_
    cases found with
    | none => exact .ok _
    | some place =>
        refine .bind ?_ fun _ => .ok _
        unfold propertyOf
        split
        · exact .ok _
        · split
          · exact .bind (Entity.property?_ordinary ..) fun _ => .ok _
          · exact .ok _

theorem evalAtom_ordinary (v : View) (text : Text) (tokens : List Token) :
    FailsOrdinarily (evalAtom v text tokens) := by
  unfold evalAtom
  refine .ite (.ok _) ?_
  split
  · exact value_ordinary v _
  · split
    · exact .bind (Number.truncate_ordinary _) fun _ => .ok _
    · refine .bind (propertyValue?_ordinary ..) fun found => ?_
      cases found with
      | some value => exact .ok _
      | none => exact .ok _

mutual

theorem eval_ordinary (v : View) : ∀ e, FailsOrdinarily (eval v e)
  | literal _ => .ok _
  | atom .. => evalAtom_ordinary ..
  | call _ args => .bind (evalAll_ordinary v args) fun _ => Function.call_ordinary ..
  | unary _ operand _ => .bind (eval_ordinary v operand) fun _ => .ok _
  | binary _ left right _ =>
    .bind (eval_ordinary v left) fun _ => .bind (eval_ordinary v right) fun _ =>
      applyBinary_ordinary ..

theorem evalAll_ordinary (v : View) : ∀ es, FailsOrdinarily (evalAll v es)
  | [] => .ok _
  | e :: es => .bind (eval_ordinary v e) fun _ => .bind (evalAll_ordinary v es) fun _ => .ok _

end

/-- An expression has a value, or evaluating it fails with an ordinary fault. -/
theorem evaluate_ordinary (v : View) (source : Text) : FailsOrdinarily (evaluate v source) :=
  eval_ordinary v _

end Expr

end CardTalk
