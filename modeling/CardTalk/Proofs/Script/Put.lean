/-
How a statement that puts a literal into a container is read.

The literal may hold anything but its own quote and a line feed: separators, parentheses and
comment marks do not count inside it.  So the first separator of the statement is the
preposition behind the literal, whatever the container holds, and the statement is a `put` and
no other command.
-/
import CardTalk.Proofs.Scene.Named
import CardTalk.Proofs.Script.Printing
import CardTalk.Proofs.Script.Statement
import CardTalk.Proofs.Text.Ways
import CardTalk.Script.Statement

namespace CardTalk

namespace Separator

variable {keyword : Text} {q : Char} {v : Text}

/-- What belongs to a string is passed. -/
theorem split?_covered {current previous : Option Char} {c : Char}
    (hc : Quote.covers current previous c) (depth : Nat) (rest : Text) :
    split?.go keyword current previous depth (c :: rest) =
      (split?.go keyword (Quote.after current previous c) (some c) depth rest).map
        fun r => (c :: r.1, r.2) := by
  rw [split?.go, if_pos hc]

/-- Nothing separates inside a literal. -/
theorem split?_inside (hv : q ∉ v) (previous : Option Char) (depth : Nat) (rest : Text) :
    split?.go keyword (some q) previous depth (v ++ q :: rest) =
      (split?.go keyword none (some q) depth rest).map fun r => (v ++ q :: r.1, r.2) := by
  induction v generalizing previous with
  | nil =>
      have hclose : Quote.after (some q) previous q = none := if_pos rfl
      rw [List.nil_append, split?_covered rfl, hclose]
      rfl
  | cons c v ih =>
      have hc : c ≠ q := fun h => hv (h ▸ List.mem_cons_self)
      have hstep : Quote.after (some q) previous c = some q := if_neg hc
      rw [List.cons_append, split?_covered rfl, hstep, ih fun h => hv (List.mem_cons_of_mem _ h),
        Option.map_map]
      rfl

/-- A string is passed wherever it opens. -/
theorem split?_string {previous : Option Char} (hq : Quote.opens previous q) (hv : q ∉ v)
    (depth : Nat) (rest : Text) :
    split?.go keyword none previous depth (Quote.literal q v ++ rest) =
      (split?.go keyword none (some q) depth rest).map
        fun r => (Quote.literal q v ++ r.1, r.2) := by
  have hopen : Quote.after none previous q = some q := if_pos hq
  have hcovers : Quote.covers none previous q = true := by
    rw [Quote.covers, hq, Bool.or_true]
  rw [Quote.literal_append, split?_covered hcovers, hopen, split?_inside hv, Option.map_map]
  simp only [Quote.literal_append]
  rfl

theorem split?_literal (hq : q = '"' ∨ q = '\'') (hv : q ∉ v) (rest : Text) :
    split? keyword (Quote.literal q v ++ rest) =
      (split?.go keyword none (some q) 0 rest).map fun r => (Quote.literal q v ++ r.1, r.2) :=
  split?_string (Quote.opens_of_eq hq) hv 0 rest

/-- A blank outside strings and parentheses either separates or is passed. -/
theorem split?_blank {previous : Option Char} (rest : Text) :
    split?.go keyword none previous 0 (' ' :: rest) =
      match (form keyword).rest? (' ' :: rest) with
      | some after => some ([], after)
      | none => (split?.go keyword none (some ' ') 0 rest).map fun r => (' ' :: r.1, r.2) := by
  rw [split?.go]
  rfl

end Separator

namespace Command

open Search

variable {q : Char} {v : Text}

/-- A preposition with blanks around it separates, and no other one does there. -/
theorem form_preposition (p p' : Preposition) {c : Char} (hc : ¬Text.isBlank c) (t : Text) :
    (Separator.form p'.word).rest? (' ' :: p.word ++ ' ' :: c :: t) =
      if p' = p then some (c :: t) else none := by
  have hblank : Text.isBlank ' ' = true := rfl
  have hletter : ∀ {d : Char} {u : Text}, ¬Text.isBlank d →
      (Separator.form p'.word).rest? (' ' :: d :: u) =
        (behind? p'.word (d :: u)).bind fun rest => blanks1 Text rest fun _ rest => some rest :=
    fun hd => blanks1_eq hblank hd _ fun _ rest =>
      (behind? p'.word rest).bind fun rest => blanks1 Text rest fun _ rest => some rest
  have hrest : blanks1 Text (' ' :: c :: t) (fun _ rest => some rest) = some (c :: t) :=
    blanks1_eq hblank hc _ _
  cases p <;> refine (hletter (by decide)).trans ?_ <;> cases p' <;> first | exact hrest | rfl

/-- Folding with the better of two, the earlier one if they are equally short, gives the element that
is shorter than all others, wherever it comes in. -/
theorem foldl_shortest {α : Type} (size : α → Nat) {better : Option α → α → Option α} {x : α}
    (hfirst : ∀ y, better none y = some y)
    (hnext : ∀ b y, better (some b) y = if size y < size b then some y else some b)
    {ys : List α} {best : Option α} (hys : ∀ y ∈ ys, y = x ∨ size x < size y)
    (hbest : ∀ y ∈ best, y = x ∨ size x < size y) (hx : best = some x ∨ x ∈ ys) :
    ys.foldl better best = some x := by
  induction ys generalizing best with
  | nil => exact hx.resolve_right List.not_mem_nil
  | cons y ys ih =>
      have hy := hys y List.mem_cons_self
      rw [List.foldl_cons]
      refine ih (fun z hz => hys z (List.mem_cons_of_mem _ hz)) ?_ ?_
      · -- whatever is best now is `x` or longer
        cases best with
        | none => simpa [hfirst] using hy
        | some b =>
            rw [hnext]
            split
            · simpa using hy
            · exact hbest
      · rcases hx with rfl | hx
        · have hno : ¬size y < size x := by
            rcases hy with rfl | hy
            · exact Nat.lt_irrefl _
            · exact Nat.lt_asymm hy
          exact .inl ((hnext _ _).trans (if_neg hno))
        · rcases List.mem_cons.mp hx with rfl | hx
          · left
            cases best with
            | none => exact hfirst _
            | some b =>
                rcases hbest b rfl with rfl | hb
                · exact (hnext _ _).trans (if_neg (Nat.lt_irrefl _))
                · exact (hnext _ _).trans (if_pos hb)
          · exact .inr hx

/-- The separator with the shortest text before it counts. -/
theorem splitAtPreposition_of_shortest {p : Preposition} {t left right : Text}
    (h : Separator.split? p.word t = some (left, right))
    (hothers : ∀ p' ≠ p, ∀ r ∈ Separator.split? p'.word t, left.length < r.1.length) :
    splitAtPreposition t = some (left, p, right) := by
  refine foldl_shortest (fun s : Text × Preposition × Text => s.1.length) (fun _ => rfl)
    (fun _ _ => rfl) (fun s hs => ?_) nofun (.inr ?_)
  · obtain ⟨p', -, hs⟩ := List.mem_filterMap.mp hs
    obtain ⟨r, hr, rfl⟩ := Option.map_eq_some_iff.mp hs
    by_cases hp : p' = p
    · subst hp
      rw [h] at hr
      exact .inl (by rw [← Option.some.inj hr])
    · exact .inr (hothers p' hp r hr)
  · refine List.mem_filterMap.mpr ⟨p, by cases p <;> decide, ?_⟩
    rw [h]
    rfl

/-- What separates a value from a container that begins with no blank, where the value is passed at
whatever preposition a statement is to be split. -/
theorem splitAtPreposition_of_passed {value : Text} {previous : Option Char}
    (hpassed : ∀ (p : Preposition) (rest : Text), Separator.split? p.word (value ++ ' ' :: rest) =
      (Separator.split?.go p.word none previous 0 (' ' :: rest)).map fun r => (value ++ r.1, r.2))
    (p : Preposition) {c : Char} (hc : ¬Text.isBlank c) (t : Text) :
    splitAtPreposition (value ++ ' ' :: p.word ++ ' ' :: c :: t) = some (value, p, c :: t) := by
  have hsplit : ∀ p' : Preposition,
      Separator.split? p'.word (value ++ ' ' :: p.word ++ ' ' :: c :: t) =
        if p' = p then some (value, c :: t)
        else (Separator.split?.go p'.word none (some ' ') 0 (p.word ++ ' ' :: c :: t)).map
          fun r => (value ++ ' ' :: r.1, r.2) := by
    intro p'
    have hform := form_preposition p p' hc t
    rw [List.cons_append] at hform
    rw [List.append_assoc, List.cons_append, hpassed, Separator.split?_blank, hform]
    by_cases hp : p' = p
    · rw [if_pos hp, if_pos hp]
      simp only [Option.map_some, List.append_nil]
    · rw [if_neg hp, if_neg hp]
      simp only [Option.map_map]
      rfl
  refine splitAtPreposition_of_shortest ((hsplit p).trans (if_pos rfl)) fun p' hp r hr => ?_
  rw [hsplit, if_neg hp] at hr
  obtain ⟨later, -, rfl⟩ := Option.map_eq_some_iff.mp hr
  simp

/-- What separates a literal from a container that begins with no blank. -/
theorem splitAtPreposition_literal (hq : q = '"' ∨ q = '\'') (hv : q ∉ v) (p : Preposition)
    {c : Char} (hc : ¬Text.isBlank c) (t : Text) :
    splitAtPreposition (Quote.literal q v ++ ' ' :: p.word ++ ' ' :: c :: t) =
      some (Quote.literal q v, p, c :: t) :=
  splitAtPreposition_of_passed (fun _ rest => Separator.split?_literal hq hv (' ' :: rest)) p hc t

/-- The statement that puts a literal into a container. -/
def putStatement (q : Char) (v : Text) (p : Preposition) (container : Text) : Text :=
  ("put " : Text) ++ (Quote.literal q v ++ ' ' :: p.word ++ ' ' :: container)

theorem forall_putStatement {P : Char → Prop} {container : Text}
    (hwords : ∀ c ∈ ("put " : Text) ++ p.word, P c) (hq : P q) (hv : ∀ c ∈ v, P c)
    (hcontainer : ∀ c ∈ container, P c) : ∀ c ∈ putStatement q v p container, P c := by
  obtain ⟨hverb, hword⟩ := List.forall_mem_append.mp hwords
  have hblank : P ' ' := hverb ' ' (by decide)
  refine List.forall_mem_append.mpr ⟨hverb, List.forall_mem_append.mpr ⟨?_, ?_⟩⟩
  · exact List.forall_mem_append.mpr
      ⟨Quote.forall_literal hq hv, List.forall_mem_cons.mpr ⟨hblank, hword⟩⟩
  · exact List.forall_mem_cons.mpr ⟨hblank, hcontainer⟩

/-- The statement is its own trimmed text if the container is. -/
theorem trim_putStatement {container : Text} (hne : container ≠ [])
    (htrim : Text.trim container = container) :
    Text.trim (putStatement q v p container) = putStatement q v p container := by
  refine Text.trim_of_not_isBlank (fun c hc => ?_) fun c hc => ?_
  · obtain rfl : 'p' = c := Option.some.inj hc
    decide
  · have hassoc : ∀ verb : Text, verb ++ (Quote.literal q v ++ ' ' :: p.word ++ ' ' :: container) =
        verb ++ (Quote.literal q v ++ ' ' :: p.word ++ [' ']) ++ container := by simp
    have hstatement : putStatement q v p container =
        ("put " : Text) ++ (Quote.literal q v ++ ' ' :: p.word ++ ' ' :: container) := rfl
    rw [hstatement, hassoc, List.getLast?_append, List.getLast?_eq_some_getLast hne,
      Option.some_or] at hc
    obtain rfl := Option.some.inj hc
    exact Text.not_isBlank_getLast htrim hne

/-! ### Verbs and arguments -/

/-- What an assignment has behind its name and the blanks after it. -/
def assignRest (name : Text) : Search Command := do
  let _ ← oneOf (· == '=')
  notBefore (· == '=')
  blanks
  let value ← rest1
  return assign name value

/-- The name of an assignment is a whole word. -/
theorem assignForm_eq {c : Char} {name : Text} (hname : ∀ d ∈ name, Text.isWord d) (rest : Text) :
    assignForm.first? (c :: name ++ ' ' :: rest) =
      if startsName c then
        blanks Command (' ' :: rest) fun _ t =>
          assignRest (c :: name) Command t fun command _ => some command
      else none := by
  have hrun : (name ++ ' ' :: rest).takeWhile Text.isWord = name ∧
      (name ++ ' ' :: rest).dropWhile Text.isWord = ' ' :: rest := by
    rw [List.takeWhile_append_of_pos hname, List.dropWhile_append_of_pos hname]
    exact ⟨List.append_nil name, rfl⟩
  have hform : assignForm.first? (c :: name ++ ' ' :: rest) =
      if startsName c then
        run Text.isWord Command (name ++ ' ' :: rest) fun more t =>
          blanks Command t fun _ t =>
            assignRest (c :: more) Command t fun command _ => some command
      else none := rfl
  rw [hform, run, hrun.1, hrun.2]

/-- A word and an argument that begins with no equal sign are no assignment. -/
theorem assignForm_eq_none {c : Char} {verb : Text} (hverb : ∀ d ∈ verb, Text.isWord d) {d : Char}
    (hd : ¬Text.isBlank d) (hequal : d ≠ '=') (t : Text) :
    assignForm.first? (c :: verb ++ ' ' :: d :: t) = none := by
  rw [assignForm_eq hverb]
  split
  · refine Option.eq_none_iff_forall_ne_some.mpr fun command hcommand => ?_
    obtain ⟨_, rest, ⟨passed, hpassed, hrest⟩, hsign⟩ := ways_blanks.sound hcommand
    obtain ⟨_, _, ⟨hequal', rfl⟩, -⟩ := (ways_oneOf _).sound hsign
    obtain rfl := eq_of_beq hequal'
    -- what is left of the blank and the argument begins with neither
    cases passed with
    | nil => exact nomatch hrest
    | cons b passed =>
        have htail := (List.cons.inj hrest).2
        cases passed with
        | nil => exact hequal (List.cons.inj htail).1
        | cons b' passed =>
            obtain rfl : d = b' := (List.cons.inj htail).1
            exact hd (hpassed d (by simp))
  · rfl

/-- A verb of one word is read with what comes behind it. -/
theorem verbForm_first? (verb : Text) (make : Text → Command) {c : Char} {t : Text}
    (hc : ¬Text.isBlank c) (hline : ∀ d ∈ c :: t, inLine d) :
    first? (do return make (← verbForm [verb])) (verb ++ ' ' :: c :: t) =
      some (make (c :: t)) := by
  have hform : first? (do return make (← verbForm [verb])) (verb ++ ' ' :: c :: t) =
      (behind? verb (verb ++ ' ' :: c :: t)).bind fun rest =>
        blanks1 Command rest fun _ rest =>
          rest1 Command rest fun argument _ => some (make argument) := rfl
  have hverb : Text.Alike verb verb := rfl
  rw [hform, behind?_append hverb, Option.bind_some, blanks1_eq rfl hc,
    rest1_eq (List.cons_ne_nil c t) hline]

/-- What comes behind `put` is its argument. -/
theorem ofStatement?_argument {c : Char} {t : Text} (hc : ¬Text.isBlank c) (hequal : c ≠ '=')
    (hline : ∀ d ∈ c :: t, inLine d) :
    ofStatement? (("put " : Text) ++ c :: t) = some (ofPut (c :: t)) := by
  have hsplit : ("put " : Text) ++ c :: t = 'p' :: ['u', 't'] ++ ' ' :: c :: t := rfl
  have hassign : assignForm.first? (("put " : Text) ++ c :: t) = none := by
    rw [hsplit]
    exact assignForm_eq_none (List.all_eq_true.mp (by decide)) hc hequal t
  have hgo : goForm.first? (("put " : Text) ++ c :: t) = none := rfl
  have hput : first? (do return ofPut (← verbForm ["put"])) (("put " : Text) ++ c :: t) =
      some (ofPut (c :: t)) := verbForm_first? "put" ofPut hc hline
  unfold ofStatement? verbs
  rw [List.findSome?_cons, hassign, List.findSome?_cons, hgo, List.findSome?_cons, hput]

/-- Putting a literal into a container is read as just that. -/
theorem ofStatement?_put (hq : q = '"' ∨ q = '\'') (hv : q ∉ v) (p : Preposition)
    {container : Text} (hne : container ≠ []) (htrim : Text.trim container = container)
    (hline : ∀ c ∈ v ++ container, inLine c) :
    ofStatement? (putStatement q v p container) =
      some (.put (Quote.literal q v) (some (p, container))) := by
  obtain ⟨c, t, rfl⟩ := List.exists_cons_of_ne_nil hne
  have hsplit := splitAtPreposition_literal hq hv p (Text.not_isBlank_head htrim) t
  have hofPut : ofPut (Quote.literal q v ++ ' ' :: p.word ++ ' ' :: c :: t) =
      .put (Quote.literal q v) (some (p, c :: t)) := by
    rw [ofPut, hsplit]
    dsimp only
    rw [htrim]
  have hlineOf : ∀ d ∈ putStatement q v p (c :: t), inLine d := by
    have hwords : ∀ d ∈ ("put " : Text) ++ p.word, inLine d := by
      refine List.all_eq_true.mp ?_
      cases p <;> decide
    have hquote : inLine q := by
      rcases hq with rfl | rfl <;> decide
    exact forall_putStatement hwords hquote (fun d hd => hline d (List.mem_append_left _ hd))
      fun d hd => hline d (List.mem_append_right _ hd)
  rw [← hofPut]
  have hequal : q ≠ '=' := by
    rcases hq with rfl | rfl <;> decide
  exact ofStatement?_argument (Quote.not_isBlank_of_eq hq) hequal fun d hd =>
    hlineOf d (List.mem_append_right _ hd)

end Command

/-! ### The statement as a script -/

namespace Script

open Target (fieldNamed)

variable {q : Char} {v : Text}

/-- No comment begins inside a literal. -/
theorem beforeComment_inside (hv : q ∉ v) (previous : Option Char) (rest : Text) :
    beforeComment.go (some q) previous (v ++ q :: rest) =
      v ++ q :: beforeComment.go none (some q) rest := by
  induction v generalizing previous with
  | nil =>
      have hclose : Quote.after (some q) previous q = none := if_pos rfl
      rw [List.nil_append, beforeComment.go, hclose]
      rfl
  | cons c v ih =>
      have hc : c ≠ q := fun h => hv (h ▸ List.mem_cons_self)
      have hstep : Quote.after (some q) previous c = some q := if_neg hc
      rw [List.cons_append, beforeComment.go, hstep, ih fun h => hv (List.mem_cons_of_mem _ h)]
      rfl

theorem beforeComment_literal (hv : '"' ∉ v) (previous : Option Char) (rest : Text) :
    beforeComment.go none previous (Quote.literal '"' v ++ rest) =
      Quote.literal '"' v ++ beforeComment.go none (some '"') rest := by
  have hopen : Quote.after none previous '"' = some '"' := rfl
  rw [Quote.literal_append, beforeComment.go, hopen, beforeComment_inside hv,
    Quote.literal_append]
  rfl

theorem inLine_of_not_isLineEnd {c : Char} (h : ¬Text.isLineEnd c) : Search.inLine c := by
  rw [Search.inLine, bne_iff_ne]
  rintro rfl
  exact h (by decide)

/-- Lines of no block are commands one after the other. -/
theorem blocks_commands {lines : List Text} (h : ∀ t ∈ lines, Line.ofText t = .command t) :
    blocks lines = lines.map .command := by
  have hprints : Prints (lines.map .command) lines := by
    induction lines with
    | nil => exact .nil
    | cons t lines ih =>
        exact .command (h t List.mem_cons_self) (ih fun u hu => h u (List.mem_cons_of_mem _ hu))
  have hread : blocks lines = (Reader.start.takeAll lines).finish := rfl
  rw [hread, hprints.takeAll rfl, Reader.addAll_start]
  rfl

theorem blockWarnings_commands {lines : List Text} (h : ∀ t ∈ lines, Line.ofText t = .command t) :
    blockWarnings lines = [] := by
  refine List.filterMap_eq_nil_iff.mpr fun t ht => ?_
  rw [h t ht]
  rfl

/-- A line that begins with `put` is a command. -/
theorem ofText_put (t : Text) :
    Line.ofText (("put " : Text) ++ t) = .command (("put " : Text) ++ t) := rfl

variable {n : Text} (hv : '"' ∉ v) (hn : '"' ∉ n) (p : Preposition)

include hv hn in
/-- There is no comment in a statement whose literals hold what they like. -/
theorem beforeComment_put :
    beforeComment (Command.putStatement '"' v p (fieldNamed n)) =
      Command.putStatement '"' v p (fieldNamed n) := by
  have hverb : ∀ u : Text, beforeComment (("put " : Text) ++ u) =
      ("put " : Text) ++ beforeComment.go none (some ' ') u := fun _ => rfl
  have hbetween : ∀ u : Text,
      beforeComment.go none (some '"') (' ' :: p.word ++ ' ' :: (("field " : Text) ++ u)) =
        ' ' :: p.word ++ ' ' :: (("field " : Text) ++ beforeComment.go none (some ' ') u) := by
    intro u
    cases p <;> rfl
  have hfield := beforeComment_literal hn (some ' ') []
  rw [List.append_nil] at hfield
  have hnone : beforeComment.go none (some '"') [] = [] := rfl
  have hstatement : Command.putStatement '"' v p (fieldNamed n) = ("put " : Text) ++
      (Quote.literal '"' v ++ ' ' :: p.word ++ ' ' :: (("field " : Text) ++ Quote.literal '"' n)) :=
    rfl
  rw [hstatement, hverb, List.append_assoc, beforeComment_literal hv, hbetween, hfield, hnone,
    List.append_nil]

include hv hn in
/-- On a line of its own the statement is the whole script. -/
theorem statements_put (hline : ∀ c ∈ v ++ n, ¬Text.isLineEnd c) :
    statements (Command.putStatement '"' v p (fieldNamed n)) =
      [Command.putStatement '"' v p (fieldNamed n)] := by
  have hlines : ∀ c ∈ Command.putStatement '"' v p (fieldNamed n), ¬Text.isLineEnd c := by
    have hwords : ∀ c ∈ ("put " : Text) ++ p.word, ¬Text.isLineEnd c := by
      refine List.any_eq_false.mp ?_
      cases p <;> decide
    exact Command.forall_putStatement hwords (by decide)
      (fun c hc => hline c (List.mem_append_left _ hc))
      (Target.forall_fieldNamed (List.any_eq_false.mp (by decide)) (by decide)
        fun c hc => hline c (List.mem_append_right _ hc))
  exact statements_self (List.cons_ne_nil 'p' _)
    (Command.trim_putStatement (Target.fieldNamed_ne_nil n) (Target.trim_fieldNamed n))
    (beforeComment_put hv hn p) hlines

end Script

end CardTalk
