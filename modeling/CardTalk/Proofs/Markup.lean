/-
Styled texts and the way back to plain ones.

A text falls into tags and other characters in one way (`Divided`), whatever is then done with
the tags.  Styling puts an escape sequence, or nothing, in the place of each tag that is known.
If the text has no escape character, every sequence in what comes of it is one that was put
there, and ends with its own last character whatever follows it.  So taking the sequences out
leaves what taking the known tags out of the text leaves in the first place, and that is every
character of the text outside of them (`Untagged`).
-/
import CardTalk.Markup
import Mathlib.Data.List.TakeWhile

namespace CardTalk.Markup

/-! ### Known tags -/

/-- The tags that are known: the names of styles, and colours of a layer. -/
inductive Known : Text → Prop
  | style {name : Text} (h : name ∈ styles.map Prod.fst) : Known name
  | color {layer color : Text} (hlayer : layer = "fg:" ∨ layer = "bg:") (hne : color ≠ [])
      (hcolor : ∀ c ∈ color, c ≠ '\x7b' ∧ c ≠ '\x7d') : Known (layer ++ color)

/-- A text without its known tags: whatever does not belong to one is kept. -/
inductive Untagged : Text → Text → Prop
  | nil : Untagged [] []
  | tag {inner rest bare : Text} (hknown : Known inner) (hrest : Untagged rest bare) :
      Untagged (written inner ++ rest) bare
  | kept {c : Char} {rest bare : Text} (hnone : ∀ inner, Known inner → ¬written inner <+: c :: rest)
      (hrest : Untagged rest bare) : Untagged (c :: rest) (c :: bare)

/-- What is read as a tag, known or not. -/
structure IsTag (inner : Text) : Prop where
  form : isTag inner
  noBrace : ∀ c ∈ inner, c ≠ '\x7b' ∧ c ≠ '\x7d'

theorem isTag_of_known {inner : Text} (h : Known inner) : IsTag inner := by
  cases h with
  | style h =>
      have hforms : (styles.map Prod.fst).all isTag = true := by decide +kernel
      have hbraces : (styles.map Prod.fst).all
          (fun name => name.all fun c => c != '\x7b' && c != '\x7d') = true := by decide +kernel
      have hbrace := List.all_eq_true.mp hbraces inner h
      exact ⟨List.all_eq_true.mp hforms inner h, fun c hc => by
        simpa using List.all_eq_true.mp hbrace c hc⟩
  | @color layer color hlayer hne hcolor =>
      have hpos : 0 < color.length := List.length_pos_iff.mpr hne
      have hlength : layer.length = 3 := by rcases hlayer with rfl | rfl <;> rfl
      have hbrace : layer.all (fun c => c != '\x7b' && c != '\x7d') = true := by
        rcases hlayer with rfl | rfl <;> decide
      refine ⟨?_, List.forall_mem_append.mpr ⟨fun c hc => ?_, hcolor⟩⟩
      · have hlong : 3 < (layer ++ color).length := by
          rw [List.length_append]
          omega
        have htake : (layer ++ color).take 3 = layer := by
          rw [← hlength, List.take_left]
        rw [isTag, htake, decide_eq_true hlong]
        rcases hlayer with rfl | rfl <;> rfl
      · simpa using List.all_eq_true.mp hbrace c hc

/-- What is read as a tag and begins like a colour is one. -/
theorem known_of_layer {layer inner : Text} (hlayer : layer = "fg:" ∨ layer = "bg:")
    (h : IsTag inner) (htake : inner.take 3 = layer) : Known inner := by
  have hsplit := List.take_append_drop 3 inner
  rw [htake] at hsplit
  have hmark : ':' ∈ inner := by
    rw [← hsplit]
    rcases hlayer with rfl | rfl <;> simp
  have hword : inner.all Text.isWord = false := by
    have hno : Text.isWord ':' = false := by decide
    refine Bool.eq_false_iff.mpr fun hall => ?_
    rw [List.all_eq_true.mp hall ':' hmark] at hno
    exact Bool.false_ne_true hno.symm
  have hlong : 3 < inner.length := by
    have hform := h.form
    simp only [isTag, hword, Bool.and_false, Bool.or_false, Bool.and_eq_true,
      decide_eq_true_eq] at hform
    exact hform.1
  rw [← hsplit]
  refine .color hlayer (fun hnil => ?_) fun c hc => h.noBrace c (List.mem_of_mem_drop hc)
  have hlength := List.length_drop (i := 3) (l := inner)
  rw [hnil, List.length_nil] at hlength
  omega

theorem mem_styles_of_named? {name t : Text} (h : named? name = some t) :
    ∃ codes, (name, codes) ∈ styles ∧ t = sequence codes := by
  obtain ⟨codes, hcodes, rfl⟩ := Option.map_eq_some_iff.mp h
  obtain ⟨before, after, hsplit, -⟩ := List.lookup_eq_some_iff.mp hcodes
  exact ⟨codes, by rw [hsplit]; simp, rfl⟩

/-- A tag is known exactly if it stands for something. -/
theorem isSome_meaning?_iff {inner : Text} (h : IsTag inner) :
    (meaning? inner).isSome ↔ Known inner := by
  constructor
  · intro hsome
    unfold meaning? at hsome
    split at hsome
    · rename_i t hnamed
      obtain ⟨codes, hmem, -⟩ := mem_styles_of_named? hnamed
      exact .style (List.mem_map_of_mem hmem)
    · by_cases hfore : inner.take 3 = ("fg:" : Text)
      · exact known_of_layer (.inl rfl) h hfore
      · by_cases hback : inner.take 3 = ("bg:" : Text)
        · exact known_of_layer (.inr rfl) h hback
        · rw [if_neg hfore, if_neg hback] at hsome
          exact nomatch hsome
  · intro hknown
    unfold meaning?
    cases hknown with
    | style hname =>
        have hnames : (styles.map Prod.fst).all (fun name => (named? name).isSome) = true := by
          decide +kernel
        obtain ⟨t, ht⟩ := Option.isSome_iff_exists.mp (List.all_eq_true.mp hnames inner hname)
        rw [ht]
        rfl
    | @color layer color hlayer =>
        have htake : (layer ++ color).take 3 = layer := by rcases hlayer with rfl | rfl <;> rfl
        split
        · rfl
        · rw [htake]
          rcases hlayer with rfl | rfl
          · dsimp only
            rw [if_pos rfl]
            split <;> rfl
          · have hno : ("bg:" : Text) ≠ "fg:" := by decide
            dsimp only
            rw [if_neg hno, if_pos rfl]
            split <;> rfl

/-! ### The pieces of a text -/

/-- The division of a text into tags and other characters. -/
inductive Divided : Text → List Piece → Prop
  | nil : Divided [] []
  | tag {inner rest : Text} {ps : List Piece} (htag : IsTag inner) (hrest : Divided rest ps) :
      Divided (written inner ++ rest) (.tag inner :: ps)
  | plain {c : Char} {rest : Text} {ps : List Piece}
      (hnone : ∀ inner, IsTag inner → ¬written inner <+: c :: rest) (hrest : Divided rest ps) :
      Divided (c :: rest) (.plain c :: ps)

/-- Written tags that begin the same text are the same. -/
theorem written_inj {inner inner' rest rest' : Text} (h : IsTag inner) (h' : IsTag inner')
    (heq : written inner ++ rest = written inner' ++ rest') : inner = inner' := by
  have hinner : ∀ {inner : Text} (rest : Text), IsTag inner →
      (inner ++ '\x7d' :: rest).takeWhile (· != '\x7d') = inner := by
    intro inner rest h
    rw [List.takeWhile_append_of_pos fun c hc => by simpa using (h.noBrace c hc).2,
      List.takeWhile_cons_of_neg (by simp), List.append_nil]
  have htail : inner ++ '\x7d' :: rest = inner' ++ '\x7d' :: rest' := by
    simpa [written] using heq
  rw [← hinner rest h, htail, hinner rest' h']

theorem tagAt?_eq_some_iff {t inner : Text} :
    tagAt? t = some inner ↔ IsTag inner ∧ ∃ rest, t = inner ++ '\x7d' :: rest := by
  unfold tagAt?
  dsimp only
  constructor
  · intro h
    split at h
    · rename_i hclosed
      rw [Bool.and_eq_true, beq_iff_eq] at hclosed
      obtain rfl := Option.some.inj h
      obtain ⟨rest, hrest⟩ := List.head?_eq_some_iff.mp hclosed.1
      refine ⟨⟨hclosed.2, fun c hc => by simpa using List.mem_takeWhile_imp hc⟩, rest, ?_⟩
      rw [← hrest]
      exact (List.prefix_iff_eq_append.mp (List.takeWhile_prefix _)).symm
    · exact nomatch h
  · rintro ⟨h, rest, rfl⟩
    have hinner : (inner ++ '\x7d' :: rest).takeWhile (fun c => c != '\x7b' && c != '\x7d') =
        inner := by
      rw [List.takeWhile_append_of_pos fun c hc => by simpa using h.noBrace c hc,
        List.takeWhile_cons_of_neg (by simp), List.append_nil]
    rw [hinner, List.drop_left, if_pos (by simp [h.form])]

/-- What a tag takes is left out. -/
theorem piecesFrom_eq (n : Nat) (t : Text) : piecesFrom n t = pieces (t.drop n) := by
  induction t generalizing n with
  | nil => rw [List.drop_nil]; rfl
  | cons c rest ih =>
      cases n with
      | zero => rfl
      | succ n => exact ih n

theorem pieces_cons (c : Char) (rest : Text) :
    pieces (c :: rest) =
      match if c = '\x7b' then tagAt? rest else none with
      | some inner => .tag inner :: pieces (rest.drop (inner.length + 1))
      | none => .plain c :: pieces rest := by
  rw [pieces, piecesFrom]
  cases if c = '\x7b' then tagAt? rest else none with
  | some inner => exact congrArg (Piece.tag inner :: ·) (piecesFrom_eq _ rest)
  | none => rfl

theorem pieces_divided (t : Text) : Divided t (pieces t) := by
  induction hlength : t.length using Nat.strongRecOn generalizing t with
  | ind n ih =>
      cases t with
      | nil => exact .nil
      | cons c rest =>
          rw [List.length_cons] at hlength
          rw [pieces_cons]
          cases hread : if c = '\x7b' then tagAt? rest else none with
          | some inner =>
              have hc : c = '\x7b' := by
                by_contra hc
                rw [if_neg hc] at hread
                exact nomatch hread
              rw [if_pos hc] at hread
              obtain ⟨htag, after, rfl⟩ := tagAt?_eq_some_iff.mp hread
              have hsplit : c :: (inner ++ '\x7d' :: after) = written inner ++ after := by
                simp [written, hc]
              have hdrop : (inner ++ '\x7d' :: after).drop (inner.length + 1) = after := by
                simp
              rw [List.length_append, List.length_cons] at hlength
              dsimp only
              rw [hsplit, hdrop]
              exact .tag htag (ih after.length (by omega) after rfl)
          | none =>
              refine .plain (fun inner htag hprefix => ?_) (ih rest.length (by omega) rest rfl)
              obtain ⟨after, hafter⟩ := hprefix
              obtain ⟨rfl, hrest⟩ := List.cons.inj hafter
              rw [if_pos rfl, tagAt?_eq_some_iff.mpr ⟨htag, after, by simp [← hrest]⟩] at hread
              exact nomatch hread

/-! ### Without known tags -/

/-- What has no opening brace is kept. -/
theorem Untagged.append {t rest bare : Text} (ht : '\x7b' ∉ t) (h : Untagged rest bare) :
    Untagged (t ++ rest) (t ++ bare) := by
  induction t with
  | nil => exact h
  | cons c t ih =>
      refine .kept (fun inner _ hprefix => ?_) (ih fun hmem => ht (List.mem_cons_of_mem _ hmem))
      obtain ⟨after, hafter⟩ := hprefix
      exact ht (by rw [← (List.cons.inj hafter).1]; exact List.mem_cons_self)

theorem Divided.untagged {t : Text} {ps : List Piece} (h : Divided t ps) :
    Untagged t (ps.flatMap Piece.bare) := by
  induction h with
  | nil => exact .nil
  | @tag inner rest ps htag _ ih =>
      rw [List.flatMap_cons, Piece.bare]
      split
      · rename_i hsome
        exact .tag ((isSome_meaning?_iff htag).mp hsome) ih
      · rename_i hnone
        -- an unknown tag is kept from its first brace on
        refine .kept (fun inner' hknown hprefix => ?_) (.append (t := inner ++ ['\x7d']) ?_ ih)
        · obtain ⟨after, hafter⟩ := hprefix
          obtain rfl := written_inj (isTag_of_known hknown) htag hafter
          exact hnone ((isSome_meaning?_iff htag).mpr hknown)
        · simpa using fun hmem => (htag.noBrace _ hmem).1 rfl
  | plain hnone _ ih =>
      exact .kept (fun inner hknown => hnone inner (isTag_of_known hknown)) ih

/-- There is one way to take the known tags out. -/
theorem Untagged.unique {t bare bare' : Text} (h : Untagged t bare) (h' : Untagged t bare') :
    bare = bare' := by
  induction h generalizing bare' with
  | nil =>
      generalize ht : ([] : Text) = t at h'
      cases h' with
      | nil => rfl
      | tag => exact nomatch ht
      | kept => exact nomatch ht
  | @tag inner rest bare hknown _ ih =>
      generalize ht : written inner ++ rest = t at h'
      cases h' with
      | nil => exact nomatch ht
      | tag hknown' hrest' =>
          obtain rfl := written_inj (isTag_of_known hknown) (isTag_of_known hknown') ht
          exact ih (List.append_cancel_left ht ▸ hrest')
      | kept hnone => exact absurd ⟨rest, ht⟩ (hnone inner hknown)
  | @kept c rest bare hnone _ ih =>
      generalize ht : c :: rest = t at h'
      cases h' with
      | nil => exact nomatch ht
      | tag hknown' => exact absurd ⟨_, ht.symm⟩ (hnone _ hknown')
      | kept _ hrest' =>
          obtain ⟨rfl, rfl⟩ := List.cons.inj ht
          exact congrArg (c :: ·) (ih hrest')

/-! ### Without escape sequences -/

theorem withoutSequencesFrom_eq (n : Nat) (t : Text) :
    withoutSequencesFrom n t = withoutSequences (t.drop n) := by
  induction t generalizing n with
  | nil => rw [List.drop_nil]; rfl
  | cons c rest ih =>
      cases n with
      | zero => rfl
      | succ n => exact ih n

/-- What has no escape character is kept. -/
theorem withoutSequences_append {t : Text} (ht : escape ∉ t) (rest : Text) :
    withoutSequences (t ++ rest) = t ++ withoutSequences rest := by
  induction t with
  | nil => rfl
  | cons c t ih =>
      have hc : c ≠ escape := fun hc => ht (hc ▸ List.mem_cons_self)
      have hstep : withoutSequences (c :: (t ++ rest)) = c :: withoutSequences (t ++ rest) := by
        rw [withoutSequences, withoutSequencesFrom, if_neg hc]
        rfl
      rw [List.cons_append, hstep, ih fun hmem => ht (List.mem_cons_of_mem _ hmem),
        List.cons_append]

/-- A sequence is taken out whatever follows it. -/
theorem withoutSequences_sequence {codes : Text} (hcodes : ∀ c ∈ codes, isCode c) (rest : Text) :
    withoutSequences (sequence codes ++ rest) = withoutSequences rest := by
  have hsplit : sequence codes ++ rest = escape :: '[' :: (codes ++ 'm' :: rest) := by
    simp [sequence]
  have htake : (codes ++ 'm' :: rest).takeWhile isCode = codes := by
    rw [List.takeWhile_append_of_pos hcodes, List.takeWhile_cons_of_neg (by decide),
      List.append_nil]
  have hlength : sequenceLength? ('[' :: (codes ++ 'm' :: rest)) = some (codes.length + 2) := by
    rw [sequenceLength?, htake, List.drop_left, if_pos (by simp)]
  have hdrop : ('[' :: (codes ++ 'm' :: rest)).drop (codes.length + 2) = rest := by simp
  rw [hsplit, withoutSequences, withoutSequencesFrom, if_pos rfl, hlength]
  dsimp only
  rw [withoutSequencesFrom_eq, hdrop]

theorem forall_isCode_ofNat (n : Nat) : ∀ c ∈ Text.ofNat n, isCode c := by
  intro c hc
  rw [isCode, Nat.isDigit_of_mem_toDigits (by decide) (by decide) hc, Bool.true_or]

/-- A colour is a sequence of codes. -/
theorem exists_codes_colored {layer : Text} (hlayer : ∀ c ∈ layer, isCode c)
    (color : Nat × Nat × Nat) :
    ∃ codes, (∀ c ∈ codes, isCode c) ∧ colored layer color = sequence codes := by
  refine ⟨_, ?_, rfl⟩
  have hjoined : Text.joined ";" [layer, "2", Text.ofNat color.1, Text.ofNat color.2.1,
      Text.ofNat color.2.2] = layer ++ ";2;".toList ++ Text.ofNat color.1 ++ ";" ++
        Text.ofNat color.2.1 ++ ";" ++ Text.ofNat color.2.2 := by
    simp [Text.joined, List.intercalate]
  rw [hjoined]
  simp only [List.forall_mem_append]
  have hsecond : ∀ c ∈ (";2;" : Text), isCode c := List.all_eq_true.mp (by decide)
  have hmark : ∀ c ∈ (";" : Text), isCode c := List.all_eq_true.mp (by decide)
  exact ⟨⟨⟨⟨⟨⟨hlayer, hsecond⟩, forall_isCode_ofNat _⟩, hmark⟩, forall_isCode_ofNat _⟩, hmark⟩,
    forall_isCode_ofNat _⟩

/-- What a tag stands for is one escape sequence or nothing. -/
theorem meaning?_cases {inner t : Text} (h : meaning? inner = some t) :
    t = [] ∨ ∃ codes, (∀ c ∈ codes, isCode c) ∧ t = sequence codes := by
  have hnamed : ∀ {name t : Text}, named? name = some t →
      ∃ codes, (∀ c ∈ codes, isCode c) ∧ t = sequence codes := by
    intro name t h
    obtain ⟨codes, hmem, rfl⟩ := mem_styles_of_named? h
    have hstyles : styles.all (fun style => style.2.all isCode) = true := by decide +kernel
    exact ⟨codes, List.all_eq_true.mp (List.all_eq_true.mp hstyles _ hmem), rfl⟩
  unfold meaning? at h
  split at h
  · rename_i t' ht
    exact .inr (hnamed (ht.trans h))
  · dsimp only at h
    split at h
    · split at h
      · obtain rfl := Option.some.inj h
        exact .inr (exists_codes_colored (List.all_eq_true.mp (by decide)) _)
      · obtain rfl := Option.some.inj h
        cases hstyle : named? (Text.lower (Text.trim (inner.drop 3))) with
        | none => exact .inl rfl
        | some t => exact .inr (hnamed hstyle)
    · split at h
      · split at h
        · obtain rfl := Option.some.inj h
          exact .inr (exists_codes_colored (List.all_eq_true.mp (by decide)) _)
        · obtain rfl := Option.some.inj h
          exact .inl rfl
      · exact nomatch h

/-- Taking the sequences out of the styled pieces leaves the bare ones. -/
theorem Divided.withoutSequences {t : Text} {ps : List Piece} (h : Divided t ps)
    (hescape : escape ∉ t) :
    Markup.withoutSequences (ps.flatMap Piece.styled) = ps.flatMap Piece.bare := by
  induction h with
  | nil => rfl
  | @tag inner rest ps _ _ ih =>
      rw [List.mem_append, not_or] at hescape
      have ih := ih hescape.2
      rw [List.flatMap_cons, List.flatMap_cons, Piece.styled, Piece.bare]
      cases hmeaning : meaning? inner with
      | none =>
          rw [Option.getD_none, withoutSequences_append hescape.1, ih]
          rfl
      | some u =>
          rw [Option.getD_some, Option.isSome_some, if_pos rfl, List.nil_append, ← ih]
          rcases meaning?_cases hmeaning with rfl | ⟨codes, hcodes, rfl⟩
          · rfl
          · exact withoutSequences_sequence hcodes _
  | @plain c rest ps _ _ ih =>
      have hc : escape ∉ [c] := fun hmem => hescape (List.mem_cons.mpr
        (.inl (List.mem_singleton.mp hmem)))
      rw [List.flatMap_cons, List.flatMap_cons, Piece.styled, Piece.bare,
        withoutSequences_append hc, ih fun hmem => hescape (List.mem_cons_of_mem _ hmem)]

/-- **Styling a text and taking the escape sequences out again leaves the text without its known
tags.**  Those are the names of styles and the colours of a layer, whether or not the colour can
be read; all other characters are kept, those of unknown tags among them. -/
theorem withoutSequences_styled {t : Text} (h : escape ∉ t) :
    withoutSequences (styled t) = withoutTags t ∧
      ∀ bare, Untagged t bare ↔ withoutTags t = bare := by
  have hdivided := pieces_divided t
  refine ⟨hdivided.withoutSequences h, fun bare => ⟨hdivided.untagged.unique, ?_⟩⟩
  rintro rfl
  exact hdivided.untagged

/-- Codes that the text has of its own, a tag that is not known, a colour that cannot be read and
a brace that is never closed. -/
theorem withoutSequences_styled_mixed :
    let t : Text := written "bold" ++ "0;1m" ++ written "nope" ++ written "fg:rgb(1, 2, 3)" ++
      "[" ++ written "bg:papayawhip" ++ "\x7bred"
    let bare : Text := "0;1m" ++ written "nope" ++ "[\x7bred"
    escape ∉ t ∧ escape ∈ styled t ∧ withoutSequences (styled t) = bare ∧ Untagged t bare := by
  intro t bare
  have ht : escape ∉ t := by decide +kernel
  obtain ⟨hstyled, huntagged⟩ := withoutSequences_styled ht
  have hbare : withoutTags t = bare := by decide +kernel
  exact ⟨ht, by decide +kernel, hstyled.trans hbare, (huntagged bare).mpr hbare⟩

end CardTalk.Markup
