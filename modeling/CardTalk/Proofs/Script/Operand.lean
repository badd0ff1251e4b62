/-
Expressions as operands of statements.

A statement is split at a preposition outside strings and parentheses.  An expression in which no
word that begins at such a place is a preposition, and which ends at one, is passed whole
(`splitFrom?_passes`), and what comes behind it is split as if it stood alone.  So `get`, `put` and
an assignment read such an operand as it is written, whatever else it holds.
-/
import CardTalk.Proofs.Script.Line
import CardTalk.Proofs.Script.Put
import CardTalk.Proofs.Script.Separator

namespace CardTalk

open Text

namespace Separator

/-! ### Places where a word begins -/

namespace Place

/-- Where a word between blanks can begin outside strings and parentheses. -/
def BeginsWord (p : Place) : Prop := p.IsBare ∧ ∀ b ∈ p.previous, isBlank b

instance (p : Place) : Decidable p.BeginsWord :=
  decidable_of_iff (p.IsBare ∧ p.previous.all isBlank) (and_congr_right' (Option.all_eq_true _ _))

/-- Blanks lead from a bare place to one where a word can begin. -/
theorem past_blank {p : Place} (hbare : p.IsBare) {b : Char} (hb : isBlank b) :
    (p.past b).BeginsWord := by
  refine ⟨hbare.past hb, ?_⟩
  rintro _ ⟨⟩
  exact hb

theorem pastAll_blanks {p : Place} (hbare : p.IsBare) {passed : Text} (hne : passed ≠ [])
    (hpassed : ∀ b ∈ passed, isBlank b) : (p.pastAll passed).BeginsWord := by
  induction passed generalizing p with
  | nil => exact absurd rfl hne
  | cons b passed ih =>
      obtain ⟨hb, hpassed⟩ := List.forall_mem_cons.mp hpassed
      have hnext := past_blank hbare hb
      cases passed with
      | nil => exact hnext
      | cons b' passed => exact ih hnext.1 (List.cons_ne_nil _ _) hpassed

end Place

/-! ### Words at bare places -/

/-- The words of a text, by the blanks around them, that begin outside strings and parentheses. -/
def bareWords (p : Place) : Text → List Text
  | [] => []
  | c :: t =>
    if p.BeginsWord ∧ ¬isBlank c then
      (c :: t).takeWhile (!isBlank ·) :: bareWords (p.past c) t
    else bareWords (p.past c) t

theorem mem_bareWords_cons {p : Place} {c : Char} {t w : Text} (h : w ∈ bareWords (p.past c) t) :
    w ∈ bareWords p (c :: t) := by
  rw [bareWords]
  split
  · exact List.mem_cons_of_mem _ h
  · exact h

theorem mem_bareWords_append {p : Place} {front t w : Text}
    (h : w ∈ bareWords (p.pastAll front) t) : w ∈ bareWords p (front ++ t) := by
  induction front generalizing p with
  | nil => exact h
  | cons d front ih => exact mem_bareWords_cons (ih h)

/-- A run without blanks that begins where a word can, and ends at a blank or the end. -/
theorem mem_bareWords {p : Place} {front w after : Text}
    (hbegins : (p.pastAll front).BeginsWord) (hne : w ≠ []) (hw : ∀ c ∈ w, ¬isBlank c)
    (hafter : ∀ c ∈ after.head?, isBlank c) : w ∈ bareWords p (front ++ (w ++ after)) := by
  refine mem_bareWords_append ?_
  obtain ⟨c, w, rfl⟩ := List.exists_cons_of_ne_nil hne
  have hnone : after.takeWhile (!isBlank ·) = [] := by
    cases after with
    | nil => rfl
    | cons b after => exact List.takeWhile_cons_of_neg (by simpa using hafter b rfl)
  have hrun : (c :: (w ++ after)).takeWhile (!isBlank ·) = c :: w := by
    have hall : ∀ d ∈ c :: w, (!isBlank d) = true := fun d hd => by simpa using hw d hd
    rw [← List.cons_append, List.takeWhile_append_of_pos hall, hnone, List.append_nil]
  rw [List.cons_append, bareWords, if_pos ⟨hbegins, hw c List.mem_cons_self⟩, hrun]
  exact List.mem_cons_self

/-! ### Passing a text -/

/-- A separator that begins within a text that ends in no blank is a word of the text. -/
theorem form_rest?_eq_none {keyword : Text} (hkeyword : keyword ≠ [])
    (hletters : ∀ c ∈ keyword, ¬isBlank c) {p : Place} {t tail : Text} (hbare : p.IsBare)
    (hne : t ≠ []) (hlast : ∀ c ∈ t.getLast?, ¬isBlank c) (htail : ∀ c ∈ tail.head?, isBlank c)
    (hwords : ∀ w ∈ bareWords p t, ¬Alike w keyword) :
    (form keyword).rest? (t ++ tail) = none := by
  refine form_rest?_of_forall fun s hs hprefix => ?_
  obtain ⟨passed, w, passed', rfl, hpassedne, hpassed, hw, hne', hpassed'⟩ := hs
  obtain ⟨rest, hsplit⟩ := hprefix
  rw [List.append_assoc, List.append_assoc, eq_comm] at hsplit
  have hwblank := hw.forall_not_isBlank hletters
  obtain ⟨b, passed', rfl⟩ := List.exists_cons_of_ne_nil hne'
  have hb : isBlank b := hpassed' b List.mem_cons_self
  obtain ⟨after, ht, hafter⟩ : ∃ after, t = passed ++ (w ++ after) ∧
      ∀ c ∈ after.head?, isBlank c := by
    cases tail with
    | nil =>
        rw [List.append_nil] at hsplit
        refine ⟨_, hsplit, ?_⟩
        rintro _ ⟨⟩
        exact hb
    | cons d tail =>
        obtain ⟨after, ht, hrest⟩ :=
          within_of_append (htail d rfl) hlast hne hpassed hwblank hsplit
        refine ⟨after, ht, fun c hc => ?_⟩
        obtain ⟨after, rfl⟩ := List.head?_eq_some_iff.mp hc
        obtain ⟨rfl, -⟩ := List.cons.inj hrest
        exact hb
  refine hwords w ?_ hw
  rw [ht]
  exact mem_bareWords (Place.pastAll_blanks hbare hpassedne hpassed) (hw.ne_nil hkeyword) hwblank
    hafter

/-- Nothing separates within a text none of whose words at bare places is the keyword. -/
theorem splitFrom?_passes {keyword : Text} (hkeyword : keyword ≠ [])
    (hletters : ∀ c ∈ keyword, ¬isBlank c) {p : Place} {t tail : Text}
    (hlast : ∀ c ∈ t.getLast?, ¬isBlank c) (htail : ∀ c ∈ tail.head?, isBlank c)
    (hwords : ∀ w ∈ bareWords p t, ¬Alike w keyword) :
    splitFrom? keyword p (t ++ tail) =
      (splitFrom? keyword (p.pastAll t) tail).map fun r => (t ++ r.1, r.2) := by
  refine splitFrom?_append fun front c rest ht hbare _ => ?_
  rw [ht, List.getLast?_append_of_ne_nil front (List.cons_ne_nil c rest)] at hlast
  refine form_rest?_eq_none hkeyword hletters hbare (List.cons_ne_nil c rest) hlast htail ?_
  intro w hw
  exact hwords w (ht ▸ mem_bareWords_append hw)

end Separator

namespace Command

open Search Separator

/-! ### Operands -/

/-- What can be an operand: a part of a line whose strings and parentheses are closed, and in which
no word outside of them is a preposition. -/
structure IsOperand (t : Text) : Prop extends Script.IsPart t where
  closed : (Place.pastAll {} t).IsBare
  noPreposition : ∀ w ∈ bareWords {} t, ∀ p ∈ [Preposition.into, .before, .after],
    ¬Alike w p.word

instance (t : Text) : Decidable (IsOperand t) :=
  decidable_of_iff (Script.IsPart t ∧ (Place.pastAll {} t).IsBare ∧
      ∀ w ∈ bareWords {} t, ∀ p ∈ [Preposition.into, .before, .after], ¬Alike w p.word)
    ⟨fun h => ⟨h.1, h.2.1, h.2.2⟩, fun h => ⟨h.toIsPart, h.closed, h.noPreposition⟩⟩

variable {t : Text}

/-- An operand is passed at whatever preposition a statement is to be split. -/
theorem IsOperand.split? (h : IsOperand t) (p : Preposition) {tail : Text}
    (htail : ∀ c ∈ tail.head?, isBlank c) :
    Separator.split? p.word (t ++ tail) =
      (splitFrom? p.word (Place.pastAll {} t) tail).map fun r => (t ++ r.1, r.2) := by
  have hword : p.word ≠ [] ∧ p.word.any isBlank = false := by cases p <;> decide
  refine splitFrom?_passes hword.1 (List.any_eq_false.mp hword.2) (p := {})
    (not_isBlank_of_mem_getLast? h.trimmed) htail fun w hw => h.noPreposition w hw p ?_
  cases p <;> decide

/-- Nothing separates in an operand that stands alone. -/
theorem IsOperand.splitAtPreposition (h : IsOperand t) : splitAtPreposition t = none := by
  have hnone (p : Preposition) : Separator.split? p.word t = none := by
    have hsplit : Separator.split? p.word (t ++ []) = _ := h.split? p nofun
    rw [List.append_nil] at hsplit
    rw [hsplit]
    rfl
  simp [Command.splitAtPreposition, hnone]

/-- What separates an operand from a container that begins with no blank. -/
theorem IsOperand.splitAtPreposition_container (h : IsOperand t) (p : Preposition) {c : Char}
    (hc : ¬isBlank c) (u : Text) :
    Command.splitAtPreposition (t ++ ' ' :: p.word ++ ' ' :: c :: u) = some (t, p, c :: u) := by
  have hpassed (p : Preposition) (rest : Text) : Separator.split? p.word (t ++ ' ' :: rest) =
      (Separator.split?.go p.word none (Place.pastAll {} t).previous 0 (' ' :: rest)).map
        fun r => (t ++ r.1, r.2) := by
    have hblank : ∀ d ∈ (' ' :: rest).head?, isBlank d := by
      rintro _ ⟨⟩
      rfl
    obtain ⟨hquote, hdepth⟩ := h.closed
    rw [h.split? p hblank, splitFrom?, hquote, hdepth]
  exact splitAtPreposition_of_passed hpassed p hc u

/-! ### Statements with operands -/

theorem IsOperand.inLine (h : IsOperand t) : ∀ c ∈ t, Search.inLine c := forall_inLine h.oneLine

/-- `put` with an operand and nothing else. -/
theorem IsOperand.ofStatement?_put (h : IsOperand t) (hequal : '=' ∉ t.head?) :
    ofStatement? (("put " : Text) ++ t) = some (.put t none) := by
  have hsplit := h.splitAtPreposition
  obtain ⟨c, t, rfl⟩ := List.exists_cons_of_ne_nil h.nonempty
  have hc : c ≠ '=' := fun hc => hequal (hc ▸ rfl)
  rw [ofStatement?_argument (h.not_isBlank_head c rfl) hc h.inLine, ofPut, hsplit]

/-- `put` with an operand and a container. -/
theorem IsOperand.ofStatement?_putInto (h : IsOperand t) (hequal : '=' ∉ t.head?)
    {container : Text} (hcontainer : Script.IsPart container) :
    ofStatement? (("put " : Text) ++ t ++ " into " ++ container) =
      some (.put t (some (.into, container))) := by
  obtain ⟨d, u, rfl⟩ := List.exists_cons_of_ne_nil hcontainer.nonempty
  have hsplit := h.splitAtPreposition_container .into (hcontainer.not_isBlank_head d rfl) u
  obtain ⟨c, t, rfl⟩ := List.exists_cons_of_ne_nil h.nonempty
  have hc : c ≠ '=' := fun hc => hequal (hc ▸ rfl)
  have hassoc : ("put " : Text) ++ c :: t ++ " into " ++ d :: u =
      ("put " : Text) ++ c :: (t ++ ' ' :: Preposition.word .into ++ ' ' :: d :: u) := by
    rw [List.append_assoc, List.append_assoc, List.append_assoc]
    rfl
  have hline : ∀ e ∈ c :: (t ++ ' ' :: Preposition.word .into ++ ' ' :: d :: u),
      Search.inLine e := by
    have hword : ∀ e ∈ ' ' :: Preposition.word .into ++ [' '], Search.inLine e :=
      List.all_eq_true.mp (by decide)
    have hsides := List.forall_mem_append.mpr
      ⟨List.forall_mem_append.mpr ⟨h.inLine, hword⟩, forall_inLine hcontainer.oneLine⟩
    simpa using hsides
  rw [hassoc, ofStatement?_argument (h.not_isBlank_head c rfl) hc hline, ofPut]
  rw [List.cons_append, List.cons_append] at hsplit
  rw [hsplit]
  dsimp only
  rw [hcontainer.trimmed]

theorem getUrl_first?_eq_none (h : Script.IsPart t) (hurl : ∀ w ∈ (words t).head?, ¬Alike w "url") :
    first? (do return getUrl (← verbForm ["get", "url"])) (("get " : Text) ++ t) = none := by
  have hform : first? (do return getUrl (← verbForm ["get", "url"])) (("get " : Text) ++ t) =
      blanks1 Command (' ' :: t) fun _ t => word "url" Command t fun _ t =>
        blanks1 Command t fun _ t => rest1 Command t fun url _ => some (getUrl url) := rfl
  refine Option.eq_none_iff_forall_ne_some.mpr fun command hcommand => ?_
  rw [hform] at hcommand
  obtain ⟨c, u, rfl⟩ := List.exists_cons_of_ne_nil h.nonempty
  rw [blanks1_eq rfl (h.not_isBlank_head c rfl)] at hcommand
  obtain ⟨_, behind, ⟨v, hv, hsplit⟩, hcommand⟩ := (ways_word "url").sound hcommand
  obtain ⟨_, _, ⟨passed, hne, hpassed, rfl⟩, -⟩ := ways_blanks1.sound hcommand
  obtain ⟨b, passed, rfl⟩ := List.exists_cons_of_ne_nil hne
  -- what is read as `url` ends at a blank, so it is the first word
  have hvblank := hv.forall_not_isBlank (List.any_eq_false.mp (by decide))
  have hfirst : (words (c :: u)).head? = some v := by
    rw [hsplit, List.cons_append, words_append v (hpassed b List.mem_cons_self),
      words_eq_singleton hvblank]
    rfl
  exact hurl v hfirst hv

/-- `get` with an operand, unless its first word makes it a `get url`. -/
theorem IsOperand.ofStatement?_get (h : IsOperand t) (hequal : '=' ∉ t.head?)
    (hurl : ∀ w ∈ (words t).head?, ¬Alike w "url") :
    ofStatement? (("get " : Text) ++ t) = some (.get t) := by
  have hgetUrl := getUrl_first?_eq_none h.toIsPart hurl
  obtain ⟨c, t, rfl⟩ := List.exists_cons_of_ne_nil h.nonempty
  have hblank := h.not_isBlank_head c rfl
  have hc : c ≠ '=' := fun hc => hequal (hc ▸ rfl)
  have hsplit : ("get " : Text) ++ c :: t = 'g' :: ['e', 't'] ++ ' ' :: c :: t := rfl
  have hassign : assignForm.first? (("get " : Text) ++ c :: t) = none := by
    rw [hsplit]
    exact assignForm_eq_none (List.all_eq_true.mp (by decide)) hblank hc t
  have hgo : goForm.first? (("get " : Text) ++ c :: t) = none := rfl
  have hput : first? (do return ofPut (← verbForm ["put"])) (("get " : Text) ++ c :: t) = none :=
    rfl
  have hget : first? (do return get (← verbForm ["get"])) (("get " : Text) ++ c :: t) =
      some (get (c :: t)) := verbForm_first? "get" get hblank h.inLine
  unfold ofStatement? verbs
  rw [List.findSome?_cons, hassign, List.findSome?_cons, hgo, List.findSome?_cons, hput,
    List.findSome?_cons, hgetUrl, List.findSome?_cons, hget]

/-! ### Assignments -/

/-- What can name a variable in an assignment: a letter without marks, in any case, or an
underscore, and word characters behind it. -/
structure IsIdentifier (name : Text) : Prop where
  start : name.head?.any startsName
  letters : ∀ c ∈ name, isWord c

instance (name : Text) : Decidable (IsIdentifier name) :=
  decidable_of_iff (name.head?.any startsName ∧ name.all isWord)
    ⟨fun h => ⟨h.1, List.all_eq_true.mp h.2⟩, fun h => ⟨h.start, List.all_eq_true.mpr h.letters⟩⟩

variable {name : Text}

theorem IsIdentifier.isPart (h : IsIdentifier name) : Script.IsPart name where
  nonempty := by
    rintro rfl
    exact nomatch h.start
  trimmed := by
    refine trim_of_not_isBlank (fun c hc => ?_) fun c hc => ?_
    · exact not_isBlank_of_isWord (h.letters c (List.mem_of_mem_head? hc))
    · exact not_isBlank_of_isWord (h.letters c (List.mem_of_mem_getLast? hc))
  oneLine := fun hmem => absurd (h.letters _ hmem) (by decide)

/-- A name, an equal sign and an operand are an assignment, also if the name is a verb. -/
theorem IsOperand.ofStatement?_assign (h : IsOperand t) (hname : IsIdentifier name) :
    ofStatement? (name ++ " = " ++ t) = some (.assign name t) := by
  obtain ⟨d, u, rfl⟩ := List.exists_cons_of_ne_nil hname.isPart.nonempty
  obtain ⟨c, t, rfl⟩ := List.exists_cons_of_ne_nil h.nonempty
  have hrest : (c :: t).dropWhile isBlank = c :: t :=
    List.dropWhile_cons_of_neg (h.not_isBlank_head c rfl)
  have hvalue : blanks Command (' ' :: c :: t) (fun _ t => rest1 Command t fun value _ =>
      some (.assign (d :: u) value)) = some (.assign (d :: u) (c :: t)) := by
    refine blanks_of_some ?_
    rw [List.dropWhile_cons_of_pos rfl, hrest, rest1_eq (List.cons_ne_nil c t) h.inLine]
  have hassign : assignForm.first? (d :: u ++ " = " ++ c :: t) =
      some (.assign (d :: u) (c :: t)) := by
    have hsplit : d :: u ++ " = " ++ c :: t = d :: u ++ ' ' :: ('=' :: ' ' :: c :: t) :=
      List.append_assoc (d :: u) " = " (c :: t)
    have hstart : startsName d := hname.start
    rw [hsplit, assignForm_eq fun e he => hname.letters e (List.mem_cons_of_mem d he),
      if_pos hstart]
    exact blanks_of_some hvalue
  unfold ofStatement? verbs
  rw [List.findSome?_cons, hassign]

end Command

end CardTalk
