/-
Statements are a normal form of scripts.

A comment begins at the first two dashes outside quotes and takes the rest of its line, so what
comes before it is a beginning of the line, the longest without a part of a comment
(`IsBeforeComment`).  Trimming cuts blanks off it, and whether a quote opens a string does not
depend on blanks before it; so what is quoted in the statement is what is quoted of it in the line,
and the statement has no comment of its own either.  Reading the statements as lines gives them
again.
-/
import CardTalk.Proofs.Expr.Quoting
import CardTalk.Proofs.Text.Lines

namespace CardTalk

open Text

/-! ### Quotes in a part of a line -/

namespace Quote

/-- What is quoted in a text does not depend on what follows it. -/
theorem prefix_marks_go (current previous : Option Char) (t rest : Text) :
    marks.go current previous t <+: marks.go current previous (t ++ rest) := by
  induction t generalizing current previous with
  | nil => exact List.nil_prefix
  | cons c t ih => exact List.cons_prefix_cons.mpr ⟨rfl, ih _ _⟩

/-- A quote behind a character that is no part of a word opens like one at the beginning. -/
theorem marks_go_some {b : Char} (hb : ¬Text.isWord b) (t : Text) :
    marks.go none (some b) t = marks.go none none t := by
  cases t with
  | nil => rfl
  | cons c t =>
      have hopens : opens (some b) c = opens none c := by simp [opens, hb]
      rw [marks_go_cons, marks_go_cons, covers, covers, after, after, hopens]

/-- Blanks before a text are not quoted, and what is quoted in the text does not depend on them. -/
theorem marks_append {passed : Text} (hpassed : ∀ b ∈ passed, isBlank b) (t : Text) :
    marks (passed ++ t) = List.replicate passed.length false ++ marks t := by
  have hquotes : ∀ b ∈ passed, b ≠ '"' ∧ b ≠ '\'' := fun b hb =>
    forall_isBlank (P := fun b => b ≠ '"' ∧ b ≠ '\'') (by decide +kernel) (hpassed b hb)
  rw [marks, marks_go_quiet (quiet_of_forall hquotes none), Option.or_none]
  cases hlast : passed.getLast? with
  | none => rfl
  | some b =>
      have hb : isBlank b := hpassed b (List.mem_of_mem_getLast? hlast)
      rw [marks_go_some fun hword => not_isBlank_of_isWord hword hb, marks]

end Quote

/-! ### Comments -/

namespace Script

theorem statement?_self {s : Text} (hne : s ≠ []) (htrim : trim s = s)
    (hcomment : beforeComment s = s) : statement? s = some s := by
  rw [statement?, hcomment, htrim, if_neg (by simpa using hne)]

/-- On a line of its own a trimmed text without a comment is the whole script. -/
theorem statements_self {s : Text} (hne : s ≠ []) (htrim : trim s = s)
    (hcomment : beforeComment s = s) (hline : ∀ c ∈ s, ¬isLineEnd c) : statements s = [s] := by
  rw [statements, lines_single hne hline, List.filterMap_cons, statement?_self hne htrim hcomment]
  rfl

/-- A character belongs to a comment, which starts there or before. -/
def InComment (line : Text) (i : Nat) : Prop := ∃ j ≤ i, CommentAt (Quote.marks line) line j

/-- The longest beginning of a line that has no part of a comment. -/
structure IsBeforeComment (line p : Text) : Prop where
  initial : p <+: line
  free : ∀ i < p.length, ¬InComment line i
  longest : ∀ q, q <+: line → (∀ i < q.length, ¬InComment line i) → q.length ≤ p.length

theorem isBeforeComment (line : Text) : IsBeforeComment line (beforeComment line) := by
  obtain ⟨n, htake, hfree, hcomment⟩ := beforeComment_marks line
  rw [htake]
  refine ⟨List.take_prefix n line, fun i hi => ?_, fun q hq hfreeq => ?_⟩
  · rintro ⟨j, hj, hat⟩
    rw [List.length_take] at hi
    exact hfree j (by omega) hat
  · rw [List.length_take]
    by_contra hlonger
    have hle := hq.length_le
    exact hfreeq n (by omega) ⟨n, Nat.le_refl n, hcomment (by omega)⟩

/-- What a statement can be: a trimmed text on one line without a comment. -/
structure IsStatement (s : Text) : Prop where
  nonempty : s ≠ []
  trimmed : trim s = s
  oneLine : ∀ c ∈ s, ¬isLineEnd c
  uncommented : ∀ i, ¬CommentAt (Quote.marks s) s i

/-- A comment in a part of a line, with blanks before it, is one of the line. -/
theorem CommentAt.within {passed s rest : Text} (hpassed : ∀ b ∈ passed, isBlank b) {i : Nat}
    (h : CommentAt (Quote.marks s) s i) :
    CommentAt (Quote.marks (passed ++ s ++ rest)) (passed ++ s ++ rest) (passed.length + i) := by
  obtain ⟨hmark, after, hdashes⟩ := h
  obtain ⟨more, hmore⟩ : Quote.marks s <+: Quote.marks (s ++ rest) :=
    Quote.prefix_marks_go none none s rest
  rw [List.append_assoc, Quote.marks_append hpassed]
  refine ⟨?_, after ++ rest, ?_⟩
  · have hi := (List.getElem?_eq_some_iff.mp hmark).1
    rw [List.getElem?_append_right (by simp), List.length_replicate, Nat.add_sub_cancel_left,
      ← hmore, List.getElem?_append_left hi]
    exact hmark
  · have hi : i ≤ s.length := by
      by_contra hi
      rw [List.drop_of_length_le (by omega)] at hdashes
      exact nomatch hdashes
    rw [List.drop_append, List.drop_of_length_le (by omega), List.nil_append,
      Nat.add_sub_cancel_left, List.drop_append_of_le_length hi, ← hdashes, List.append_assoc]

/-- What is trimmed of the part before a comment is a statement, unless it is empty. -/
theorem isStatement_trim {line : Text} (hline : ∀ c ∈ line, ¬isLineEnd c)
    (hne : trim (beforeComment line) ≠ []) : IsStatement (trim (beforeComment line)) := by
  have hbefore := isBeforeComment line
  generalize beforeComment line = p at hbefore hne
  obtain ⟨comment, rfl⟩ := hbefore.initial
  obtain ⟨passed, after, hpassed, -, hsplit⟩ := exists_blanks_around p
  have hmem : ∀ c ∈ trim p, c ∈ p := fun c hc => by
    rw [hsplit]
    simp [hc]
  refine ⟨hne, trim_trim p, fun c hc => hline c (List.mem_append_left _ (hmem c hc)),
    fun i hat => ?_⟩
  have hwithin : CommentAt (Quote.marks (passed ++ trim p ++ (after ++ comment)))
      (passed ++ trim p ++ (after ++ comment)) (passed.length + i) := hat.within hpassed
  have hparts : passed ++ trim p ++ (after ++ comment) = p ++ comment := by
    rw [← List.append_assoc, ← hsplit]
  have hi : i < (trim p).length := by
    obtain ⟨-, rest, hdashes⟩ := hat
    by_contra hi
    rw [List.drop_of_length_le (by omega)] at hdashes
    exact nomatch hdashes
  -- a comment of the statement would be one of the line, in the part that has none
  rw [hparts] at hwithin
  refine hbefore.free (passed.length + i) ?_ ⟨_, Nat.le_refl _, hwithin⟩
  have hlength := congrArg List.length hsplit
  rw [List.length_append, List.length_append] at hlength
  omega

/-- A statement is read back from a line of its own. -/
theorem IsStatement.statement? {s : Text} (h : IsStatement s) : Script.statement? s = some s := by
  obtain ⟨n, htake, -, hcomment⟩ := beforeComment_marks s
  have hn : s.length ≤ n := by
    by_contra hn
    exact h.uncommented n (hcomment (by omega))
  rw [List.take_of_length_le hn] at htake
  exact statement?_self h.nonempty h.trimmed htake

/-- **Statements are a normal form.**  Each is a trimmed text on one line that has no comment.
They are what the lines of the script have before their comments, trimmed and in the same order,
where that is not empty.  And as the lines of a script they are its statements. -/
theorem statements_normal (script : Text) :
    (∀ s ∈ statements script, IsStatement s) ∧
    (∃ parts, List.Forall₂ IsBeforeComment (lines script) parts ∧
      statements script = (parts.map trim).filter (· ≠ [])) ∧
    statements (joined "\n" (statements script)) = statements script := by
  have hnormal : ∀ s ∈ statements script, IsStatement s := by
    intro s hs
    obtain ⟨line, hline, hstatement⟩ := List.mem_filterMap.mp hs
    rw [Script.statement?] at hstatement
    split at hstatement
    · exact nomatch hstatement
    · rename_i hne
      obtain rfl := Option.some.inj hstatement
      exact isStatement_trim (not_isLineEnd_of_mem_lines hline) (by simpa using hne)
  refine ⟨hnormal, ⟨(lines script).map beforeComment, ?_, ?_⟩, ?_⟩
  · rw [List.forall₂_map_right_iff, List.forall₂_same]
    exact fun line _ => isBeforeComment line
  · have hguard : statement? = Option.guard (· ≠ []) ∘ trim ∘ beforeComment := by
      funext line
      by_cases hne : trim (beforeComment line) = [] <;> simp [statement?, Option.guard, hne]
    rw [statements, List.map_map, ← List.filterMap_eq_filter, List.filterMap_map, hguard]
  · have hlines : lines (joined "\n" (statements script)) = statements script :=
      lines_joined fun s hs => ⟨(hnormal s hs).nonempty, (hnormal s hs).oneLine⟩
    calc (lines (joined "\n" (statements script))).filterMap statement?
        = (statements script).filterMap statement? := by rw [hlines]
      _ = (statements script).filterMap some :=
          List.filterMap_congr fun s hs => (hnormal s hs).statement?
      _ = statements script := List.filterMap_some

end Script

end CardTalk
