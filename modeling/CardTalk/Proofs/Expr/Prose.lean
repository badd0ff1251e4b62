/-
Prose stays prose.

A text of plain words is its own value, whatever operator words are among them, when it has neither
of the comparing words: `is` applies to any operands, and `contains` to any left one but an atom
that means nothing.  A missing right operand, behind an operator word at the end, does not matter
then.
-/
import CardTalk.Proofs.Expr.Containing

namespace CardTalk.Expr

open Text

/-- The words, in lower case, that mean something in prose: the comparing operators, the literal
words and those that special forms begin with. -/
def meaningWords : List Text :=
  ["the", "it", "empty", "true", "false", "random", "is", "contains"]

/-- Plain words with blanks around them, none of which means anything or is a variable. -/
structure Prose (v : View) (t : Text) : Prop where
  plain : ∀ c ∈ t, isBlank c ∨ isPlain c
  meaningless : ∀ w ∈ t.splitOnP isBlank, lower w ∉ meaningWords
  unnamed : ∀ w ∈ t.splitOnP isBlank, w ≠ [] → v.bindings.lookup? w = none

/-- Prose is a text of plain words without `contains`. -/
theorem Prose.plainWords {v : View} {t : Text} (h : Prose v t) :
    PlainWords v ["contains"] t := by
  have hspecial : ∀ w ∈ specialWords, w ∈ meaningWords := by decide
  refine ⟨h.plain, fun w hw hmem => h.meaningless w hw (hspecial _ hmem), h.unnamed,
    fun w hw _ hmem => h.meaningless w hw ?_⟩
  rw [List.mem_singleton.mp hmem]
  decide

/-- **A text of plain words is its own value, trimmed, whatever operator words are in it.** -/
theorem evaluate_prose {v : View} {t : Text} (h : Prose v t) :
    evaluate v t = .ok (trim t) := by
  by_cases hne : trim t = []
  · rw [evaluate, hne]
    rfl
  · obtain ⟨⟨hvalue, -⟩, hprose⟩ := reassembles_parse h.plainWords.trim (trim_trim t) hne
    exact hvalue (hprose (List.mem_singleton_self _))

/-- Operator words may come first, last and one after another. -/
theorem evaluate_prose_operators :
    let v : View :=
      { scene := .assemble (.usual "s") [] [.usual "a" "A"] 0 0
        bindings := { registers := { it := "7", globals := [("tommy", "1")] }, context := {} }
        surroundings :=
          { draw := fun low _ => low, date := [], time := [], fetch := fun _ => .ok [] } }
    let t : Text := "\tand Tom or  not not Jerry mod Not DIV "
    Prose v t ∧ evaluate v t = .ok "and Tom or  not not Jerry mod Not DIV" := by
  intro v t
  have hplain : t.all (fun c => isBlank c || isPlain c) := by decide +kernel
  have hprose : Prose v t :=
    ⟨fun c hc => Bool.or_eq_true_iff.mp (List.all_eq_true.mp hplain c hc), by decide +kernel,
      by decide +kernel⟩
  exact ⟨hprose, (evaluate_prose hprose).trans (by decide +kernel)⟩

end CardTalk.Expr
