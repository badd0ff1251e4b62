/-
Lines and texts made of them.

No character of a line ends one, and lines with line feeds between them are read as these lines.
-/
import CardTalk.Text.Lines
import Mathlib.Data.List.Basic

namespace CardTalk.Text

theorem mem_of_mem_lines {t line : Text} (hline : line ∈ lines t) : ∀ c ∈ line, c ∈ t := by
  fun_induction lines t generalizing line with
  | case1 => exact nomatch hline
  | case2 rest ih =>
      intro c hc
      rcases List.mem_cons.mp hline with rfl | hline
      · exact nomatch hc
      · exact List.mem_cons_of_mem _ (List.mem_cons_of_mem _ (ih hline c hc))
  | case3 a rest hend hnot ih =>
      intro c hc
      rcases List.mem_cons.mp hline with rfl | hline
      · exact nomatch hc
      · exact List.mem_cons_of_mem _ (ih hline c hc)
  | case4 a rest hend hnot hlines ih =>
      intro c hc
      obtain rfl := List.mem_singleton.mp hline
      obtain rfl := List.mem_singleton.mp hc
      exact List.mem_cons_self
  | case5 a rest hend hnot first more hlines ih =>
      intro c hc
      rcases List.mem_cons.mp hline with rfl | hline
      · rcases List.mem_cons.mp hc with rfl | hc
        · exact List.mem_cons_self
        · exact List.mem_cons_of_mem _ (ih (hlines ▸ List.mem_cons_self) c hc)
      · exact List.mem_cons_of_mem _ (ih (hlines ▸ List.mem_cons_of_mem _ hline) c hc)

theorem not_isLineEnd_of_mem_lines {t line : Text} (hline : line ∈ lines t) :
    ∀ c ∈ line, ¬isLineEnd c := by
  fun_induction lines t generalizing line with
  | case1 => exact nomatch hline
  | case2 rest ih =>
      rcases List.mem_cons.mp hline with rfl | hline
      · exact nofun
      · exact ih hline
  | case3 a rest hend hnot ih =>
      rcases List.mem_cons.mp hline with rfl | hline
      · exact nofun
      · exact ih hline
  | case4 a rest hend hnot hlines ih =>
      obtain rfl := List.mem_singleton.mp hline
      exact List.forall_mem_singleton.mpr hnot
  | case5 a rest hend hnot first more hlines ih =>
      rcases List.mem_cons.mp hline with rfl | hline
      · exact List.forall_mem_cons.mpr ⟨hnot, ih (hlines ▸ List.mem_cons_self)⟩
      · exact ih (hlines ▸ List.mem_cons_of_mem _ hline)

theorem lines_cons {c : Char} (hc : ¬isLineEnd c) (t : Text) :
    lines (c :: t) =
      match lines t with
      | [] => [[c]]
      | line :: more => (c :: line) :: more := by
  have hreturn : ∀ rest, c = '\r' → t = '\n' :: rest → False := by
    rintro rest rfl -
    exact hc rfl
  exact (lines.eq_3 c t hreturn).trans (if_neg hc)

/-- A text on one line is its only line. -/
theorem lines_single {t : Text} (hne : t ≠ []) (h : ∀ c ∈ t, ¬isLineEnd c) : lines t = [t] := by
  induction t with
  | nil => exact absurd rfl hne
  | cons c t ih =>
      obtain ⟨hc, ht⟩ := List.forall_mem_cons.mp h
      rw [lines_cons hc]
      cases t with
      | nil => rfl
      | cons d t => rw [ih (List.cons_ne_nil _ _) ht]

/-- A line feed ends a line. -/
theorem lines_append {line : Text} (h : ∀ c ∈ line, ¬isLineEnd c) (rest : Text) :
    lines (line ++ '\n' :: rest) = line :: lines rest := by
  induction line with
  | nil =>
      have hfeed : isLineEnd '\n' = true := rfl
      rw [List.nil_append, lines, if_pos hfeed]
      rintro rest' ⟨⟩
  | cons c line ih =>
      obtain ⟨hc, hline⟩ := List.forall_mem_cons.mp h
      rw [List.cons_append, lines_cons hc, ih hline]

/-- Lines that are not empty are read back from the text that they make up. -/
theorem lines_joined {ts : List Text} (h : ∀ t ∈ ts, t ≠ [] ∧ ∀ c ∈ t, ¬isLineEnd c) :
    lines (joined "\n" ts) = ts := by
  induction ts with
  | nil => rfl
  | cons t ts ih =>
      obtain ⟨⟨hne, ht⟩, hts⟩ := List.forall_mem_cons.mp h
      cases ts with
      | nil =>
          have hjoined : joined "\n" [t] = t := List.intercalate_singleton
          rw [hjoined, lines_single hne ht]
      | cons u ts =>
          have hjoined : joined "\n" (t :: u :: ts) = t ++ '\n' :: joined "\n" (u :: ts) := by
            rw [joined, List.intercalate_cons_cons]
            exact List.append_assoc ..
          rw [hjoined, lines_append ht, ih hts]

end CardTalk.Text
