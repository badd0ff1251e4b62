/-
What a destination and a target mean by the name of a card.

A destination may be a number, a keyword or a name; a target that names a card is looked up by
its name or identifier only (`findCard?`).  Both mean the first card that answers to the name,
unless the name is a keyword or begins with an integer: a number is read off the beginning of
a destination, whatever follows it.  So a name that is no keyword means the same card in every
scene exactly if it does not begin with an integer: `resolve_agrees_iff`.
-/
import CardTalk.Proofs.Scene.Navigation
import CardTalk.Proofs.Text.Blank

namespace CardTalk

/-! ### Texts that begin with an integer -/

namespace Number

/-- Digits come first, possibly behind a minus. -/
def BeginsWithInteger (t : Text) : Prop :=
  ∃ d rest, Text.isDecimal d ∧ (t = d :: rest ∨ t = '-' :: d :: rest)

/-- The text is digits, possibly behind a minus, and nothing else. -/
def IsInteger (t : Text) : Prop :=
  ∃ digits, digits ≠ [] ∧ (∀ d ∈ digits, Text.isDecimal d) ∧ (t = digits ∨ t = '-' :: digits)

/-- No digit is a sign. -/
theorem not_isDecimal_sign {c : Char} (h : c = '-' ∨ c = '+') : ¬Text.isDecimal c := by
  rcases h with rfl | rfl <;> decide

theorem readSign_of_ne {c : Char} (hminus : c ≠ '-') (hplus : c ≠ '+') (rest : Text) :
    readSign (c :: rest) = (false, c :: rest) := by
  unfold readSign
  split
  · rename_i heq
    exact absurd (List.cons.inj heq).1 hminus
  · rename_i heq
    exact absurd (List.cons.inj heq).1 hplus
  · rfl

end Number

namespace Scene

open Number Text

/-- A number is asked for where an integer comes first. -/
theorem askedNumber?_of_begins {t : Text} (htrim : trim t = t) (h : BeginsWithInteger t) :
    askedNumber? t = leadingInt? t ∧ leadingInt? t ≠ .ok none := by
  have hstart := (trim_eq_self htrim).1
  have hread : ∀ negative (d : Char) (rest : Text), isDecimal d →
      readSign t = (negative, d :: rest) → leadingInt? t ≠ .ok none := by
    intro negative d rest hd hsign
    rw [leadingInt?, hstart, hsign]
    dsimp only
    rw [List.takeWhile_cons_of_pos hd, List.isEmpty_cons, if_neg Bool.false_ne_true]
    cases integerOf negative (d :: rest.takeWhile isDecimal) <;> exact nofun
  obtain ⟨d, rest, hd, rfl | rfl⟩ := h
  · have hdigit : isDigit d = true := by rw [isDigit, hd, Bool.true_or]
    refine ⟨?_, hread false d rest hd (readSign_of_ne ?_ ?_ rest)⟩
    · rw [askedNumber?, hstart]
      dsimp only
      rw [hdigit, Bool.true_or, if_pos rfl]
    · rintro rfl
      exact not_isDecimal_sign (.inl rfl) hd
    · rintro rfl
      exact not_isDecimal_sign (.inr rfl) hd
  · refine ⟨?_, hread true d rest hd rfl⟩
    rw [askedNumber?, hstart]
    rfl

theorem askedNumber?_of_not_begins {t : Text} (htrim : trim t = t) (h : ¬BeginsWithInteger t) :
    askedNumber? t = .ok none := by
  have hstart := (trim_eq_self htrim).1
  cases t with
  | nil => rfl
  | cons c rest =>
      rw [askedNumber?, hstart]
      dsimp only
      split
      · rename_i hc
        have hnone : ∀ negative digits, readSign (c :: rest) = (negative, digits) →
            digits.takeWhile isDecimal = [] → leadingInt? (c :: rest) = .ok none := by
          intro negative digits hsign hdigits
          rw [leadingInt?, hstart, hsign]
          dsimp only
          rw [hdigits]
          rfl
        by_cases hminus : c = '-'
        · subst hminus
          refine hnone true rest rfl ?_
          cases rest with
          | nil => rfl
          | cons d rest =>
              exact List.takeWhile_cons_of_neg fun hd => h ⟨d, rest, hd, .inr rfl⟩
        · have hplus : c ≠ '+' := by
            rintro rfl
            exact absurd hc (by decide)
          refine hnone false (c :: rest) (readSign_of_ne hminus hplus rest) ?_
          exact List.takeWhile_cons_of_neg fun hd => h ⟨c, rest, hd, .inl rfl⟩
      · rfl

/-! ### Which card is meant -/

/-- The words for destinations that are no names. -/
def keywords : List Text := ["next", "prev", "previous", "first", "last", "back"]

theorem ofWord?_eq_none {word : Text} (h : word ∉ keywords) : Keyword.ofWord? word = none := by
  have hall : ∀ w ∈ ([("back", Keyword.back), ("next", .next), ("prev", .previous),
      ("previous", .previous), ("first", .first), ("last", .last)] : List (Text × Keyword)),
      w.1 ∈ keywords := by decide
  refine List.lookup_eq_none_iff.mpr fun w hw => ?_
  rw [bne_iff_ne]
  rintro rfl
  exact h (hall w hw)

/-- The card at the position is the first with a name, in any case, or with an identifier. -/
def FirstNamed (s : Scene) (name : Text) (i : Nat) : Prop :=
  (∃ c, s.cards[i]? = some c ∧ (lower c.name = lower name ∨ c.id = name)) ∧
    ∀ j < i, ∀ c, s.cards[j]? = some c → ¬(lower c.name = lower name ∨ c.id = name)

/-- A name means the same card as a destination and in a target, and where no card has it, going
there fails. -/
structure Agree (s : Scene) (name : Text) : Prop where
  resolves : ∀ i, s.resolve (.text name) = .ok i ↔ s.FirstNamed name i
  finds : ∀ i, s.findCard? name = some i ↔ s.FirstNamed name i
  fails : (∃ f, s.resolve (.text name) = .error f ∧ f.kind = .navigation) ↔
    s.findCard? name = none

variable {s : Scene} {name : Text}

theorem answersTo_iff (c : Card) : c.answersTo name ↔ lower c.name = lower name ∨ c.id = name := by
  simp [Card.answersTo]

theorem findCard?_eq_some_iff {i : Nat} : s.findCard? name = some i ↔ s.FirstNamed name i := by
  rw [findCard?, List.findIdx?_eq_some_iff_getElem]
  simp only [answersTo_iff, FirstNamed]
  constructor
  · rintro ⟨hi, hname, hbefore⟩
    refine ⟨⟨_, List.getElem?_eq_getElem hi, hname⟩, fun j hj c hc => ?_⟩
    obtain ⟨hlt, rfl⟩ := List.getElem?_eq_some_iff.mp hc
    exact hbefore j hj
  · rintro ⟨⟨c, hc, hname⟩, hbefore⟩
    obtain ⟨hi, rfl⟩ := List.getElem?_eq_some_iff.mp hc
    exact ⟨hi, hname, fun j hj => hbefore j hj _ (List.getElem?_eq_getElem _)⟩

section

variable (htrim : trim name = name) (hkeyword : lower name ∉ keywords)

include htrim hkeyword

/-- A name that does not begin with an integer is looked up as a target would look it up. -/
theorem resolve_name (h : ¬BeginsWithInteger name) :
    s.resolve (.text name) = (s.findCard? name).elim (.error (.noSuchCard name)) .ok := by
  have hnone : Keyword.of? name = none := by
    rw [Keyword.of?, htrim, ofWord?_eq_none hkeyword]
  have hnamed : s.resolve (.text name) = s.named name := by
    simp only [resolve, askedNumber?_of_not_begins htrim h, bind, Except.bind, hnone]
  have hfound : s.cards.findIdx? (fun c => lower c.name == lower name || c.id == name) =
      s.findCard? name := rfl
  rw [hnamed, named, htrim, hfound]
  cases s.findCard? name with
  | none => rfl
  | some i => rfl

theorem agree_of_not_begins (h : ¬BeginsWithInteger name) : s.Agree name := by
  have hresolve := resolve_name (s := s) htrim hkeyword h
  refine ⟨fun i => ?_, fun i => findCard?_eq_some_iff, ?_⟩
  · rw [← findCard?_eq_some_iff, hresolve]
    cases s.findCard? name <;> simp
  · rw [hresolve]
    cases s.findCard? name with
    | none => exact ⟨fun _ => rfl, fun _ => ⟨_, rfl, rfl⟩⟩
    | some i => exact ⟨fun ⟨_, hf, _⟩ => (nomatch hf), nofun⟩

end

/-- A scene with one card. -/
def single (name : Text) : Scene := .assemble (.usual "s") [] [.usual "a" name] 0 0

theorem cards_single (name : Text) :
    ∃ c, (single name).cards = [c] ∧ c.name = name ∧ c.id = ("a" : Text) := ⟨_, rfl, rfl, rfl⟩

theorem firstNamed_single : (single name).FirstNamed name 0 := by
  obtain ⟨c, hcards, hname, -⟩ := cards_single name
  refine ⟨⟨c, by rw [hcards]; rfl, .inl (by rw [hname])⟩, fun j hj => absurd hj (Nat.not_lt_zero j)⟩

/-- A number that a name begins with is looked up whatever follows it: the first card has the
name, but not the number, or the other way round. -/
theorem not_agree_of_begins (htrim : trim name = name) (h : BeginsWithInteger name) :
    ∃ s : Scene, ¬s.Agree name := by
  obtain ⟨hasked, hsome⟩ := askedNumber?_of_begins htrim h
  cases hnumber : leadingInt? name with
  | error f =>
      have hfault : (single name).resolve (.text name) = .error f := by
        simp only [resolve, hasked, hnumber, bind, Except.bind]
      refine ⟨single name, fun hs => ?_⟩
      cases hfault.symm.trans ((hs.resolves 0).mpr firstNamed_single)
  | ok number =>
      obtain ⟨n, rfl⟩ := Option.ne_none_iff_exists'.mp fun hnone => hsome (hnone ▸ hnumber)
      have hresolve : ∀ s : Scene, s.resolve (.text name) = s.numbered (Text.ofInt n) n := by
        intro s
        simp only [resolve, hasked, hnumber, bind, Except.bind]
      by_cases hn : n = 1
      · -- the only card has the number and not the name
        subst hn
        refine ⟨single [], fun hs => ?_⟩
        obtain ⟨⟨c, hc, hname⟩, -⟩ := (hs.resolves 0).mp (hresolve _)
        obtain ⟨d, hcards, hnameless, hid⟩ := cards_single []
        rw [hcards] at hc
        obtain rfl : d = c := Option.some.inj hc
        rw [hnameless, hid] at hname
        obtain ⟨digit, rest, hdigit, rfl | rfl⟩ := h
        · rcases hname with hname | hname
          · exact lower_ne_nil (List.cons_ne_nil digit rest) hname.symm
          · exact absurd hdigit ((List.cons.inj hname).1 ▸ by decide)
        · rcases hname with hname | hname
          · exact lower_ne_nil (List.cons_ne_nil _ _) hname.symm
          · cases (List.cons.inj hname).1
      · -- the only card has the name and not the number
        refine ⟨single name, fun hs => ?_⟩
        have hok := (hs.resolves 0).mpr firstNamed_single
        obtain ⟨c, hcards, -⟩ := cards_single name
        have hout : n < 1 ∨ n > (single name).cards.length := by
          rw [hcards, List.length_singleton]
          omega
        rw [hresolve, numbered, if_pos hout] at hok
        cases hok

/-- **As a destination and in a target a name means the same card in every scene, unless it begins
with an integer.** -/
theorem resolve_agrees_iff (htrim : trim name = name) (hkeyword : lower name ∉ keywords) :
    (∀ s : Scene, s.Agree name) ↔ ¬BeginsWithInteger name := by
  constructor
  · intro hagree h
    obtain ⟨s, hs⟩ := not_agree_of_begins htrim h
    exact hs (hagree s)
  · exact fun h s => agree_of_not_begins htrim hkeyword h

/-- A minus alone makes no number. -/
theorem resolve_agrees_iff_dashed :
    let name : Text := "- 2nd take"
    trim name = name ∧ lower name ∉ keywords ∧ ¬BeginsWithInteger name ∧
      ∀ s : Scene, s.Agree name := by
  intro name
  have htrim : trim name = name := by decide +kernel
  have hkeyword : lower name ∉ keywords := by decide +kernel
  have hnumber : ¬BeginsWithInteger name := by
    rintro ⟨d, rest, hd, heq | heq⟩
    · obtain rfl : '-' = d := (List.cons.inj heq).1
      exact not_isDecimal_sign (.inl rfl) hd
    · obtain rfl : ' ' = d := (List.cons.inj (List.cons.inj heq).2).1
      exact absurd hd (by decide)
  exact ⟨htrim, hkeyword, hnumber, (resolve_agrees_iff htrim hkeyword).mpr hnumber⟩

/-- The second card is named `3D View`, but as a destination that means the third of two cards. -/
theorem resolve_disagrees :
    let name : Text := "3D View"
    let s : Scene := .assemble (.usual "s") [] [.usual "a" "A", .usual "b" "3D View"] 0 0
    trim name = name ∧ lower name ∉ keywords ∧ ¬IsInteger name ∧ s.findCard? name = some 1 ∧
      s.resolve (.text name) = .error (.cardOutOfRange "3" 2) := by
  intro name s
  refine ⟨by decide +kernel, by decide +kernel, ?_, by decide +kernel, by decide +kernel⟩
  rintro ⟨digits, -, hdigits, heq | heq⟩
  · have hmem : 'D' ∈ digits := heq ▸ List.mem_cons_of_mem '3' List.mem_cons_self
    exact absurd (hdigits 'D' hmem) (by decide)
  · exact nomatch (List.cons.inj heq).1

end Scene

end CardTalk
