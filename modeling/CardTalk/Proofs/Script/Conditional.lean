/-
Where the condition of an `if` ends.

The line `if C then K` is an `if` with the condition `C` and the command `K`, and `if C then`
opens a block with the condition `C`, exactly if no word of `C` but the first is `then`
(`blocks_if_iff`).  A word is what stands between blanks, and strings do not protect it: a `then`
between blanks ends the condition within a string too, although separating words and comments are
looked for outside of strings (`blocks_if_cut`).
-/
import CardTalk.Proofs.Script.Line
import CardTalk.Quote
import CardTalk.Script.Block

namespace CardTalk.Script

open Text

/-! ### A line by itself -/

/-- What stands behind `then` and is no `if` itself is one command. -/
theorem Node.inline_of_ifForm {t : Text} (h : Line.ifForm.first? t = none) :
    Node.inline t = .command t := by
  cases t with
  | nil => rfl
  | cons c t =>
      rw [Node.inline, List.length_cons, Node.ofInline, h]

namespace Reader

theorem finish_take_opensIf (condition inner : Text) :
    (start.take (.opensIf condition inner)).finish =
      [.ifElse condition (if inner.isEmpty then [] else [.inline inner]) []] := by
  cases inner with
  | nil => rfl
  | cons c inner => rfl

/-- The only line that gives an `if` by itself is that of an `if`. -/
theorem opensIf_of_finish {line : Line} {condition : Text} {thenBody : List Node}
    (h : (start.take line).finish = [.ifElse condition thenBody []]) :
    ∃ inner, line = .opensIf condition inner := by
  cases line with
  | opensIf condition' inner =>
      rw [finish_take_opensIf] at h
      obtain ⟨rfl, -, -⟩ := Node.ifElse.inj (List.cons.inj h).1
      exact ⟨inner, rfl⟩
  | command text => exact nomatch (List.cons.inj h).1
  | opensRepeat header form => exact nomatch (List.cons.inj h).1
  | malformedIf text => exact nomatch h
  | isElse command => exact nomatch h
  | endIf => exact nomatch h
  | endRepeat => exact nomatch h

/-- The only line that opens the first part of an `if` is that of an `if` without a command. -/
theorem opensIf_of_push {line : Line} {condition : Text}
    (h : start.take line = start.push (.inThen [] condition [])) :
    line = .opensIf condition [] := by
  have hframes := congrArg Reader.frames h
  cases line with
  | opensIf condition' inner =>
      cases inner with
      | nil =>
          obtain ⟨-, rfl, -⟩ := Frame.inThen.inj (List.cons.inj hframes).1
          rfl
      | cons c inner => exact nomatch hframes
  | opensRepeat header form => exact nomatch (List.cons.inj hframes).1
  | command text => exact nomatch hframes
  | malformedIf text => exact nomatch hframes
  | isElse command => exact nomatch hframes
  | endIf => exact nomatch hframes
  | endRepeat => exact nomatch hframes

end Reader

/-! ### Conditions that are read whole -/

/-- A line of an `if` gives the `if` that it is meant to be, with a command of its own or as an
open block, exactly if no word of the condition but the first is `then`. -/
theorem blocks_if_iff {condition command : Text} (hcondition : IsPart condition)
    (hcommand : IsPart command) (hnoIf : Line.ifForm.first? command = none) :
    (blocks [ifLine condition ++ ' ' :: command] =
        [.ifElse condition [.command command] []] ↔
      ∀ w ∈ (words condition).tail, ¬Alike w "then") ∧
    ((∀ r : Reader, r.waiting = none →
        r.take (Line.ofText (ifLine condition)) = r.push (.inThen [] condition [])) ↔
      ∀ w ∈ (words condition).tail, ¬Alike w "then") := by
  have htail : ∀ c ∈ ' ' :: command, Search.inLine c :=
    List.forall_mem_cons.mpr ⟨by decide, Search.forall_inLine hcommand.oneLine⟩
  have hhead : ∀ c ∈ (' ' :: command).head?, isBlank c := fun c hc => Option.some.inj hc ▸ rfl
  refine ⟨⟨fun h => ?_, fun hthen => ?_⟩, ⟨fun h => ?_, fun hthen r hr => ?_⟩⟩
  · obtain ⟨inner, hopens⟩ := Reader.opensIf_of_finish h
    exact Line.not_alike_of_ifForm hcondition htail (Line.ofText_eq_opensIf_iff.mp hopens)
  · have hform := Line.ifForm_first?_eq hcondition htail hhead hthen
    have hempty : command.isEmpty = false := List.isEmpty_eq_false_iff.mpr hcommand.nonempty
    rw [trim_cons (by decide), hcommand.trimmed] at hform
    rw [blocks, List.map_singleton, Line.ofText_eq_opensIf_iff.mpr hform, List.foldl_cons,
      List.foldl_nil, Reader.finish_take_opensIf, hempty, Node.inline_of_ifForm hnoIf]
    rfl
  · have hopens := Line.ofText_eq_opensIf_iff.mp (Reader.opensIf_of_push (h .start rfl))
    rw [← List.append_nil (ifLine condition)] at hopens
    exact Line.not_alike_of_ifForm hcondition (List.forall_mem_nil _) hopens
  · have hform := Line.ifForm_first?_eq hcondition (List.forall_mem_nil _) nofun hthen
    rw [List.append_nil] at hform
    rw [Line.ofText_eq_opensIf_iff.mpr hform, Reader.take, hr]
    rfl

/-- A `then` that the quotes of a string touch is no word, so the condition is read whole. -/
theorem blocks_if_iff_touched :
    let condition : Text := "it is \"then\""
    let command : Text := "beep"
    IsPart condition ∧ IsPart command ∧ Line.ifForm.first? command = none ∧
      blocks ["if it is \"then\" then beep"] = [.ifElse condition [.command command] []] ∧
      ∀ r : Reader, r.waiting = none →
        r.take (Line.ofText "if it is \"then\" then") = r.push (.inThen [] condition []) := by
  intro condition command
  have hcondition : IsPart condition := by decide
  have hcommand : IsPart command := by decide
  have hnoIf : Line.ifForm.first? command = none := rfl
  have hthen : ∀ w ∈ (words condition).tail, ¬Alike w "then" := by decide
  have hboth := blocks_if_iff hcondition hcommand hnoIf
  exact ⟨hcondition, hcommand, hnoIf, hboth.1.mpr hthen, hboth.2.mpr hthen⟩

/-- All quotes of the condition are closed and its only `then` lies within a string, but the
condition is cut there, and the rest of the string becomes part of the command. -/
theorem blocks_if_cut :
    let condition : Text := "it is \"now then go\""
    IsPart condition ∧ IsPart "beep" ∧ Line.ifForm.first? "beep" = none ∧
      Quote.marks condition = List.replicate 6 false ++ List.replicate 13 true ∧
      blocks ["if it is \"now then go\" then beep"] =
        [.ifElse "it is \"now" [.command "go\" then beep"] []] ∧
      Line.ofText "if it is \"now then go\" then" = .opensIf "it is \"now" "go\" then" :=
  ⟨by decide, by decide, rfl, by decide, rfl, rfl⟩

end CardTalk.Script
