/-
How the lines of blocks read.

The words for blocks are read wherever they begin a line.  What stands between `if` and `then`
is read whole exactly if no word of it but the first is `then` (`ifForm_first?_eq`,
`not_alike_of_ifForm`): the form ends a condition at the first `then` between blanks, and
inside of the condition that is such a word.
-/
import CardTalk.Proofs.Text.Ways
import CardTalk.Proofs.Text.Word
import CardTalk.Script.Line

namespace CardTalk

namespace Script

open Search Text

/-! ### Conditions -/

/-- What can be a part of a line: a text, trimmed and on one line. -/
structure IsPart (t : Text) : Prop where
  nonempty : t ≠ []
  trimmed : trim t = t
  oneLine : '\n' ∉ t

instance (t : Text) : Decidable (IsPart t) :=
  decidable_of_iff (t ≠ [] ∧ trim t = t ∧ '\n' ∉ t)
    ⟨fun h => ⟨h.1, h.2.1, h.2.2⟩, fun h => ⟨h.nonempty, h.trimmed, h.oneLine⟩⟩

theorem IsPart.not_isBlank_head {t : Text} (h : IsPart t) : ∀ c ∈ t.head?, ¬isBlank c := by
  intro c hc
  obtain ⟨t', rfl⟩ := List.head?_eq_some_iff.mp hc
  exact Text.not_isBlank_head h.trimmed

/-- What can stand between `if` and `then`: a trimmed text on one line, in which no word is
`then` in any case. -/
structure IsCondition (condition : Text) : Prop where
  nonempty : condition ≠ []
  trimmed : Text.trim condition = condition
  oneLine : '\n' ∉ condition
  noThen : ∀ word ∈ condition.splitOnP Text.isBlank, word.map Text.fold ≠ ['t', 'h', 'e', 'n']

theorem IsCondition.isPart {condition : Text} (h : IsCondition condition) : IsPart condition :=
  ⟨h.nonempty, h.trimmed, h.oneLine⟩

theorem IsCondition.forall_not_alike {condition : Text} (h : IsCondition condition) :
    ∀ w ∈ (words condition).tail, ¬Alike w "then" :=
  fun w hw hthen => h.noThen w (List.mem_of_mem_tail hw) (hthen.trans (by decide))

/-- The line that opens an `if`. -/
def ifLine (condition : Text) : Text := "if ".toList ++ condition ++ " then".toList

namespace Line

/-- What comes after `then`. -/
def ifRest (condition : Text) : Text → Option (Text × Text) := fun t =>
  optional (do blanks1; rest) (Text × Text) t fun command t =>
    ending (Text × Text) t fun _ _ => some (condition, Text.trim (command.getD []))

/-- The form of an `if`, one part after the other. -/
theorem ifForm_eq (t : Text) :
    ifForm.first? t = word "if" _ t fun _ t => blanks1 _ t fun _ t =>
      partUpTo (do blanks1; word "then") _ t fun part t => ifRest part.1 t := rfl

theorem ifRest_cons (condition : Text) {c : Char} (hc : ¬Text.isBlank c) (t : Text) :
    ifRest condition (c :: t) = none := by
  have hends : ¬(c :: t = [] ∨ c :: t = ['\n']) := by
    rintro (h | h)
    · exact nomatch h
    · exact hc ((List.cons.inj h).1 ▸ rfl)
  have hblanks : ∀ accept, (do blanks1; rest : Search Text) (Text × Text) (c :: t) accept = none :=
    fun _ => if_neg hc
  rw [ifRest, optional_eq (hblanks _)]
  exact if_neg hends

/-- What comes after `then` on the line is a command, possibly an empty one. -/
theorem ifRest_eq (condition : Text) {t : Text} (hline : ∀ c ∈ t, inLine c)
    (hhead : ∀ c ∈ t.head?, isBlank c) : ifRest condition t = some (condition, trim t) := by
  cases t with
  | nil => rfl
  | cons b t =>
      have hb : isBlank b := hhead b rfl
      have hline' : ∀ c ∈ t.dropWhile isBlank, inLine c := fun c hc =>
        hline c (List.mem_cons_of_mem b ((List.dropWhile_sublist _).subset hc))
      have htrim : trim (t.dropWhile isBlank) = trim (b :: t) :=
        (trim_dropWhile t).trans (trim_cons hb t).symm
      refine or_of_some ?_
      change (if isBlank b then blanks _ t _ else none) = _
      rw [if_pos hb]
      refine givingBack_of_some ((rest_eq hline' _).trans ?_)
      exact congrArg (fun command => some (condition, command)) htrim

theorem eq_of_ifRest {condition condition' command t : Text}
    (h : ifRest condition t = some (condition', command)) : condition = condition' := by
  rcases optional_cases h with hsome | hnone
  · obtain ⟨_, _, -, hsome⟩ := leaves_blanks1 hsome
    exact (Prod.mk.inj (Option.some.inj (accept_of_ending (accept_of_rest hsome)))).1
  · exact (Prod.mk.inj (Option.some.inj (accept_of_ending hnone))).1

/-- The lines that open an `if` are those of its form. -/
theorem ofText_eq_opensIf_iff {t condition command : Text} :
    Line.ofText t = .opensIf condition command ↔ ifForm.first? t = some (condition, command) := by
  constructor
  · intro h
    unfold ofText at h
    split at h
    · split at h
      · rename_i condition' command' hform
        obtain ⟨rfl, rfl⟩ := Line.opensIf.inj h
        exact hform
      · exact nomatch h
    · split at h
      · exact nomatch h
      · split at h
        · exact nomatch h
        · split at h
          · exact nomatch h
          · split at h <;> exact nomatch h
  · intro h
    have hform := h
    rw [ifForm_eq] at h
    obtain ⟨_, behindIf, hif, h⟩ := (ways_word "if").sound h
    obtain ⟨_, behindBlanks, hblanks, -⟩ := ways_blanks1.sound h
    have hstart : ifStart.matches? t = true :=
      ((ways_word "if").bind fun _ => ways_blanks1).matches?_iff.mpr
        ⟨(), behindBlanks, (), behindIf, hif, hblanks⟩
    rw [ofText, if_pos hstart, hform]

theorem ways_then :
    (do blanks1; word "then" : Search Unit).Ways fun t _ rest =>
      ∃ passed w, t = passed ++ (w ++ rest) ∧ passed ≠ [] ∧ (∀ c ∈ passed, isBlank c) ∧
        Alike w "then" :=
  (ways_blanks1.bind fun _ => ways_word "then").congr fun t _ rest => by
    constructor
    · rintro ⟨_, _, ⟨passed, hne, hpassed, rfl⟩, w, hw, rfl⟩
      exact ⟨passed, w, rfl, hne, hpassed, hw⟩
    · rintro ⟨passed, w, rfl, hne, hpassed, hw⟩
      exact ⟨(), _, ⟨passed, hne, hpassed, rfl⟩, w, hw, rfl⟩

theorem not_isBlank_then : ∀ c ∈ ("then" : Text), ¬isBlank c := List.any_eq_false.mp (by decide)

section

variable {condition tail : Text} (h : IsPart condition) (htail : ∀ c ∈ tail, inLine c)

include h

/-- Behind `if` the form looks for a place to end the condition. -/
theorem ifForm_ifLine :
    ifForm.first? (ifLine condition ++ tail) =
      partUpTo (do blanks1; word "then") _ (condition ++ (" then".toList ++ tail))
        fun part t => ifRest part.1 t := by
  have hsplit : ifLine condition ++ tail =
      "if ".toList ++ (condition ++ (" then".toList ++ tail)) := by
    simp only [ifLine, List.append_assoc]
  have hbehind : behind? "if" (ifLine condition ++ tail) =
      some (' ' :: (condition ++ (" then".toList ++ tail))) := by
    rw [hsplit]
    rfl
  obtain ⟨c, t, rfl⟩ := List.exists_cons_of_ne_nil h.nonempty
  rw [ifForm_eq, word, hbehind, Option.bind_some, List.cons_append,
    blanks1_eq rfl (h.not_isBlank_head c rfl)]

include htail

/-- A condition in which no word but the first is `then` is read whole, and what comes behind
`then` is the command. -/
theorem ifForm_first?_eq (hhead : ∀ c ∈ tail.head?, isBlank c)
    (hthen : ∀ w ∈ (words condition).tail, ¬Alike w "then") :
    ifForm.first? (ifLine condition ++ tail) = some (condition, trim tail) := by
  rw [ifForm_ifLine h]
  refine partUpTo_append h.nonempty (forall_inLine h.oneLine) (ifRest_eq condition htail hhead)
    fun front x _ hx hsplit => Option.eq_none_iff_forall_ne_some.mpr fun found hfound => ?_
  -- a place to end the condition within it is behind a word `then` of the condition
  obtain ⟨⟨⟩, after, ⟨passed, w, heq, hne, hpassed, hw⟩, hrest⟩ := ways_then.sound hfound
  have hw' := hw.forall_not_isBlank not_isBlank_then
  have hlast := not_isBlank_of_mem_getLast? h.trimmed
  rw [hsplit, List.getLast?_append_of_ne_nil _ hx] at hlast
  obtain ⟨after', rfl, rfl⟩ := within_of_append (b := ' ') rfl hlast hx hpassed hw' heq
  refine hthen w (mem_tail_words_iff.mpr ⟨front, passed, after', hsplit, hne, hpassed, hw', ?_⟩) hw
  intro c hc
  obtain ⟨after'', rfl⟩ := List.head?_eq_some_iff.mp hc
  by_contra hblank
  rw [List.cons_append, ifRest_cons _ hblank] at hrest
  exact nomatch hrest

/-- In a condition that is read whole no word but the first is `then`. -/
theorem not_alike_of_ifForm {command : Text}
    (hform : ifForm.first? (ifLine condition ++ tail) = some (condition, command)) :
    ∀ w ∈ (words condition).tail, ¬Alike w "then" := by
  intro w hw hthen
  obtain ⟨before, passed, after, hsplit, hne, hpassed, -, hafter⟩ := mem_tail_words_iff.mp hw
  have hbefore : before ≠ [] := by
    rintro rfl
    obtain ⟨b, passed, rfl⟩ := List.exists_cons_of_ne_nil hne
    exact h.not_isBlank_head b (hsplit ▸ rfl) (hpassed b List.mem_cons_self)
  rw [ifForm_ifLine h, partUpTo_eq_some_iff] at hform
  obtain ⟨part, rest, -, -, -, hstop, hfirst⟩ := hform
  obtain ⟨⟨⟩, _, -, hread⟩ := ways_then.sound hstop
  obtain rfl : condition = part := (eq_of_ifRest hread).symm
  -- that word comes before the end of what is read, and the form can stop at it
  have hlt : before.length < condition.length := by
    rw [hsplit, List.length_append, List.length_append]
    have hpos := List.length_pos_of_ne_nil hne
    omega
  have hsplit' : condition ++ (" then".toList ++ tail) =
      before ++ (passed ++ (w ++ (after ++ (" then".toList ++ tail)))) := by
    rw [hsplit]
    simp only [List.append_assoc]
  have hnone := ways_then.complete (hfirst before _ hsplit' hbefore hlt) () _
    ⟨passed, w, rfl, hne, hpassed, hthen⟩
  have hrest : ∀ c ∈ after ++ (" then".toList ++ tail), inLine c := by
    refine List.forall_mem_append.mpr ⟨fun c hc => forall_inLine h.oneLine c ?_, ?_⟩
    · simp [hsplit, hc]
    · exact List.forall_mem_append.mpr ⟨List.all_eq_true.mp (by decide), htail⟩
  have hblank : ∀ c ∈ (after ++ (" then".toList ++ tail)).head?, isBlank c := by
    cases after with
    | nil => exact fun c hc => Option.some.inj hc ▸ rfl
    | cons d after => exact hafter
  exact absurd ((ifRest_eq _ hrest hblank).symm.trans hnone) (Option.some_ne_none _)

end

section

variable {condition : Text} (h : IsCondition condition)

include h

/-- A condition is read back from between `if` and `then`. -/
theorem ifForm_first? : ifForm.first? (ifLine condition) = some (condition, []) := by
  rw [← List.append_nil (ifLine condition)]
  exact ifForm_first?_eq h.isPart (List.forall_mem_nil _) nofun h.forall_not_alike

/-! ### Printed lines -/

theorem ofText_ifLine : Line.ofText (ifLine condition) = .opensIf condition [] :=
  ofText_eq_opensIf_iff.mpr (ifForm_first? h)

theorem ofText_elseIfLine :
    Line.ofText ("else ".toList ++ ifLine condition) = .isElse (ifLine condition) := by
  have hinLine : ∀ c ∈ ifLine condition, inLine c := by
    have hwords : ("if ".toList ++ " then".toList).all inLine = true := by decide
    intro c hc
    simp only [ifLine, List.mem_append] at hc
    rcases hc with (hc | hc) | hc
    · exact List.all_eq_true.mp hwords c (List.mem_append_left _ hc)
    · exact forall_inLine h.oneLine c hc
    · exact List.all_eq_true.mp hwords c (List.mem_append_right _ hc)
  have htrim : Text.trim (ifLine condition) = ifLine condition := by
    have hend := List.rdropWhile_concat_neg Text.isBlank
      ("if ".toList ++ condition ++ " the".toList) 'n' (by decide)
    rw [List.append_assoc] at hend
    exact hend
  have helse : elseForm.first? ("else ".toList ++ ifLine condition) = some (ifLine condition) := by
    have hgiving : elseForm.first? ("else ".toList ++ ifLine condition) =
        givingBack (fun t => rest Text t fun command _ => some (Text.trim command)) [' ']
          (ifLine condition) := rfl
    rw [hgiving]
    exact givingBack_of_some (by rw [rest_eq hinLine, htrim])
  have hother : ifStart.matches? ("else ".toList ++ ifLine condition) = false ∧
      repeatStart.matches? ("else ".toList ++ ifLine condition) = false := ⟨rfl, rfl⟩
  rw [Line.ofText, hother.1, hother.2, helse]
  rfl

end

theorem ofText_else : Line.ofText "else" = .isElse [] := rfl

theorem ofText_endRepeat : Line.ofText "end repeat" = .endRepeat := rfl

end Line

end Script

end CardTalk
