/-
How a statement that sets the text of a field is read.

The name of the field and the text stand between double quotes, so nothing in them separates: the
statement is split at the `to` between them, and what comes before it at the `of` behind the name
of the property.
-/
import CardTalk.Proofs.Script.Operand

namespace CardTalk

open Target (fieldNamed)

namespace Command

open Search Separator

/-- The statement that sets the text of a field to a literal. -/
def setTextStatement (v n : Text) : Text :=
  ("set the text of " : Text) ++ (fieldNamed n ++ ((" to " : Text) ++ Quote.literal '"' v))

variable {v n : Text}

theorem forall_setTextStatement {P : Char → Prop}
    (hwords : ∀ c ∈ ("set the text of field \" to" : Text), P c) (hv : ∀ c ∈ v, P c)
    (hn : ∀ c ∈ n, P c) : ∀ c ∈ setTextStatement v n, P c := by
  have hof : ("set the text of " : Text) ⊆ "set the text of field \" to" := by decide
  have hfield : ("field " : Text) ⊆ "set the text of field \" to" := by decide
  have hto : (" to " : Text) ⊆ "set the text of field \" to" := by decide
  have hquote : P '"' := hwords '"' (by decide)
  refine List.forall_mem_append.mpr ⟨fun c hc => hwords c (hof hc), ?_⟩
  refine List.forall_mem_append.mpr
    ⟨Target.forall_fieldNamed (fun c hc => hwords c (hfield hc)) hquote hn, ?_⟩
  exact List.forall_mem_append.mpr
    ⟨fun c hc => hwords c (hto hc), Quote.forall_literal hquote hv⟩

theorem trim_setTextStatement (v n : Text) :
    Text.trim (setTextStatement v n) = setTextStatement v n := by
  refine Text.trim_of_not_isBlank (fun c hc => ?_) fun c hc => ?_
  · obtain rfl : 's' = c := Option.some.inj hc
    decide
  · have hlast : ∀ front word : Text, front ++ (fieldNamed n ++ (word ++ Quote.literal '"' v)) =
        front ++ (fieldNamed n ++ (word ++ '"' :: v)) ++ ['"'] := by
      simp [Quote.literal]
    have hstatement : setTextStatement v n = _ ++ ['"'] := hlast "set the text of " " to "
    rw [hstatement, List.getLast?_concat] at hc
    obtain rfl : '"' = c := Option.some.inj hc
    decide

/-! ### The verb -/

/-- A verb of one word is read with the whole statement and what comes behind the verb. -/
theorem wholeForm_first? (verb : Text) (make : Text → Text → Command) {c : Char} {t : Text}
    (hc : ¬Text.isBlank c) (hline : ∀ d ∈ c :: t, inLine d) :
    (wholeForm verb make).first? (verb ++ ' ' :: c :: t) =
      some (make (verb ++ ' ' :: c :: t) (c :: t)) := by
  let statement := verb ++ ' ' :: c :: t
  have hform : (wholeForm verb make).first? statement =
      (behind? verb statement).bind fun rest =>
        blanks1 Command rest fun _ rest => rest1 Command rest fun argument rest =>
          some (make (statement.take (statement.length - rest.length)) argument) := rfl
  have hverb : Text.Alike verb verb := rfl
  rw [hform, behind?_append hverb, Option.bind_some, blanks1_eq rfl hc,
    rest1_eq (List.cons_ne_nil c t) hline, List.length_nil, Nat.sub_zero, List.take_length]

/-- What comes behind `set` is its argument. -/
theorem ofStatement?_set {c : Char} {t : Text} (hc : ¬Text.isBlank c) (hequal : c ≠ '=')
    (hline : ∀ d ∈ c :: t, inLine d) :
    ofStatement? (("set " : Text) ++ c :: t) =
      some (ofSet (("set " : Text) ++ c :: t) (c :: t)) := by
  have hletters : ∀ d ∈ ("et" : Text), Text.isWord d := List.all_eq_true.mp (by decide)
  have hassign : assignForm.first? (("set " : Text) ++ c :: t) = none :=
    assignForm_eq_none (c := 's') hletters hc hequal t
  have hgo : goForm.first? (("set " : Text) ++ c :: t) = none := rfl
  have hput : first? (do return ofPut (← verbForm ["put"])) (("set " : Text) ++ c :: t) = none :=
    rfl
  have hgetUrl : first? (do return getUrl (← verbForm ["get", "url"]))
      (("set " : Text) ++ c :: t) = none := rfl
  have hget : first? (do return get (← verbForm ["get"])) (("set " : Text) ++ c :: t) = none := rfl
  have hset : (wholeForm "set" ofSet).first? (("set " : Text) ++ c :: t) =
      some (ofSet (("set " : Text) ++ c :: t) (c :: t)) := wholeForm_first? "set" ofSet hc hline
  unfold ofStatement? verbs
  rw [List.findSome?_cons, hassign, List.findSome?_cons, hgo, List.findSome?_cons, hput,
    List.findSome?_cons, hgetUrl, List.findSome?_cons, hget, List.findSome?_cons, hset]

/-! ### The argument -/

/-- The argument is split at the word between the field and the text. -/
theorem split?_setText (hn : '"' ∉ n) :
    split? "to" (("the text of " : Text) ++ (fieldNamed n ++ ((" to " : Text) ++
      Quote.literal '"' v))) = some (("the text of " : Text) ++ fieldNamed n,
        Quote.literal '"' v) := by
  let tail : Text := (" to " : Text) ++ Quote.literal '"' v
  have hletters : ∀ c ∈ ("to" : Text), ¬Text.isBlank c := List.any_eq_false.mp (by decide)
  have hlast : ∀ c ∈ ("the text of field" : Text).getLast?, ¬Text.isBlank c := by
    intro c hc
    obtain rfl : 'd' = c := Option.some.inj hc
    decide
  have hwords : splitFrom? "to" {} (("the text of field" : Text) ++
      ' ' :: (Quote.literal '"' n ++ tail)) =
        (split?.go "to" none (some 'd') 0 (' ' :: (Quote.literal '"' n ++ tail))).map
          fun r => (("the text of field" : Text) ++ r.1, r.2) :=
    splitFrom?_passes (by decide) hletters hlast (fun c hc => Option.some.inj hc ▸ rfl) (by decide)
  have hblank : split?.go "to" none (some 'd') 0 (' ' :: (Quote.literal '"' n ++ tail)) =
      (split?.go "to" none (some ' ') 0 (Quote.literal '"' n ++ tail)).map
        fun r => (' ' :: r.1, r.2) := split?_blank _
  have hto : split?.go "to" none (some '"') 0 tail = some ([], Quote.literal '"' v) :=
    split?_blank _
  refine hwords.trans ?_
  rw [hblank, split?_string rfl hn, hto]
  simp only [Option.map_some, List.append_nil]
  rfl

theorem ofSet_text (hn : '"' ∉ n) (statement : Text) :
    ofSet statement (("the text of " : Text) ++ (fieldNamed n ++ ((" to " : Text) ++
      Quote.literal '"' v))) = .set "the text" (some (fieldNamed n)) (Quote.literal '"' v) := by
  have hof : split? "of" (("the text of " : Text) ++ fieldNamed n) =
      some (("the text" : Text), fieldNamed n) := rfl
  rw [ofSet, split?_setText hn]
  dsimp only
  rw [hof]

/-- Setting the text of a field is read as just that. -/
theorem ofStatement?_setText (hn : '"' ∉ n) (hline : ∀ c ∈ v ++ n, inLine c) :
    ofStatement? (setTextStatement v n) =
      some (.set "the text" (some (fieldNamed n)) (Quote.literal '"' v)) := by
  have hlineOf : ∀ d ∈ setTextStatement v n, inLine d :=
    forall_setTextStatement (List.all_eq_true.mp (by decide))
      (fun c hc => hline c (List.mem_append_left _ hc))
      fun c hc => hline c (List.mem_append_right _ hc)
  rw [← ofSet_text hn (setTextStatement v n)]
  exact ofStatement?_set (c := 't') (by decide) (by decide) fun d hd =>
    hlineOf d (List.mem_append_right ("set " : Text) hd)

end Command

/-! ### The statement as a script -/

namespace Script

/-- A line that begins with `set` is a command. -/
theorem ofText_set (t : Text) :
    Line.ofText (("set " : Text) ++ t) = .command (("set " : Text) ++ t) := rfl

variable {v n : Text} (hv : '"' ∉ v) (hn : '"' ∉ n)

include hv hn in
theorem beforeComment_set :
    beforeComment (Command.setTextStatement v n) = Command.setTextStatement v n := by
  have hwords : ∀ u : Text, beforeComment (("set the text of field " : Text) ++ u) =
      ("set the text of field " : Text) ++ beforeComment.go none (some ' ') u := fun _ => rfl
  have hto : ∀ u : Text, beforeComment.go none (some '"') ((" to " : Text) ++ u) =
      (" to " : Text) ++ beforeComment.go none (some ' ') u := fun _ => rfl
  have hlast := beforeComment_literal hv (some ' ') []
  rw [List.append_nil] at hlast
  have hnone : beforeComment.go none (some '"') [] = [] := rfl
  have hstatement : Command.setTextStatement v n = ("set the text of field " : Text) ++
      (Quote.literal '"' n ++ ((" to " : Text) ++ Quote.literal '"' v)) := rfl
  rw [hstatement, hwords, beforeComment_literal hn, hto, hlast, hnone, List.append_nil]

include hv hn in
/-- On a line of its own the statement is the whole script. -/
theorem statements_set (hline : ∀ c ∈ v ++ n, ¬Text.isLineEnd c) :
    statements (Command.setTextStatement v n) = [Command.setTextStatement v n] := by
  have hlines : ∀ c ∈ Command.setTextStatement v n, ¬Text.isLineEnd c :=
    Command.forall_setTextStatement (List.any_eq_false.mp (by decide))
      (fun c hc => hline c (List.mem_append_left _ hc))
      fun c hc => hline c (List.mem_append_right _ hc)
  exact statements_self (List.cons_ne_nil 's' _) (Command.trim_setTextStatement v n)
    (beforeComment_set hv hn) hlines

end Script

end CardTalk
