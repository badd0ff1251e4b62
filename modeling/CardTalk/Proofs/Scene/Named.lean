/-
Fields by name.

A script names a field as `field "N"` both where its text is read and where something is put
into it.  Two forms read these words, one for targets and one for containers, and they agree:
the field meant is the first one of the current card, or else of its background, that is named
`N` or has it for an identifier.  Nothing in a name counts but a double quote and a line feed.
-/
import CardTalk.Engine.Perform
import CardTalk.Proofs.Expr.Literal
import CardTalk.Proofs.Scene.Near
import CardTalk.Proofs.Text.Search

namespace CardTalk

open Search

variable {n : Text}

/-- The words for a field with a name. -/
def Target.fieldNamed (n : Text) : Text := ("field " : Text) ++ Quote.literal '"' n

open Target (fieldNamed)

theorem Target.fieldNamed_ne_nil (n : Text) : fieldNamed n ≠ [] := List.cons_ne_nil 'f' _

theorem Target.forall_fieldNamed {P : Char → Prop} (hword : ∀ c ∈ ("field " : Text), P c)
    (hquote : P '"') (hn : ∀ c ∈ n, P c) : ∀ c ∈ fieldNamed n, P c :=
  List.forall_mem_append.mpr ⟨hword, Quote.forall_literal hquote hn⟩

theorem Target.trim_fieldNamed (n : Text) : Text.trim (fieldNamed n) = fieldNamed n := by
  refine Text.trim_of_not_isBlank (fun c hc => ?_) fun c hc => ?_
  · obtain rfl : 'f' = c := Option.some.inj hc
    decide
  · have hlast : fieldNamed n = ("field " : Text) ++ '"' :: n ++ ['"'] :=
      (List.append_assoc ..).symm
    rw [hlast, List.getLast?_concat] at hc
    obtain rfl : '"' = c := Option.some.inj hc
    decide

/-! ### As a target -/

namespace Target

/-- A name between quotes without such quotes inside. -/
theorem quotedName_literal {β : Type} {q : Char} (hn : q ∉ n) (hline : ∀ c ∈ n, inLine c)
    {accept : Text → Text → Option β} {b : β} (haccept : accept n [] = some b) :
    quotedName q β (Quote.literal q n) accept = some b := by
  have hopen : quotedName q β (Quote.literal q n) accept =
      upTo inLine (oneOf (· == q)) β (n ++ [q]) fun r rest => accept r.1 rest :=
    if_pos (beq_self_eq_true q)
  have hpass : upToFrom inLine (oneOf (· == q)) (fun r rest => accept r.1 rest) [] (n ++ [q]) =
      upToFrom inLine (oneOf (· == q)) (fun r rest => accept r.1 rest) (n.reverse ++ []) [q] := by
    refine upToFrom_append [q] n [] hline fun c u before hsuffix => if_neg ?_
    have hc : c ≠ q := fun heq => hn (heq ▸ hsuffix.subset List.mem_cons_self)
    simpa using hc
  have hstop : oneOf (· == q) β [q] (fun a rest => accept (n.reverse ++ []).reverse rest) =
      some b := by
    rw [List.append_nil, List.reverse_reverse]
    exact (if_pos (beq_self_eq_true q)).trans haccept
  rw [hopen, upTo, hpass, upToFrom, hstop]

/-- No word for a layer comes before the word for a field. -/
theorem layer_fieldNamed {β : Type} {accept : Option Layer → Text → Option β} :
    optional (do let layer ← layerWord; blanks1; return layer) β (fieldNamed n) accept =
      accept none (fieldNamed n) :=
  optional_eq rfl

/-- The form of an object, one part after the other. -/
theorem objectForm_eq (t : Text) :
    objectForm.first? t =
      optional (do let layer ← layerWord; blanks1; return layer) _ t fun layer t =>
        kindWord _ t fun word t => blanks1 _ t fun _ t => name _ t fun r t =>
          ending _ t fun _ _ => some (ofKindWord layer (Text.lower word) r.1 r.2) := rfl

/-- The word for a field is read as it is written. -/
theorem kindWord_field {β : Type} {t : Text} {accept : Text → Text → Option β} {b : β}
    (h : accept "field" t = some b) : kindWord β (("field" : Text) ++ t) accept = some b := by
  have hread : (("field" : Text) ++ t).take ((("field" : Text) ++ t).length - t.length) =
      "field" := by
    rw [List.length_append, Nat.add_sub_cancel]
    exact List.take_left
  let reading : Option Part.Kind → Text → Option β := fun _ rest =>
    accept ((("field" : Text) ++ t).take ((("field" : Text) ++ t).length - rest.length)) rest
  have hreading : reading (some .field) t = some b := by
    rw [← h, ← hread]
  have hkinds : kindWord β (("field" : Text) ++ t) accept =
      anyOf kinds β (("field" : Text) ++ t) reading := rfl
  rw [hkinds]
  exact anyOf_of_some [("button", some Part.Kind.button), ("btn", some .button)]
    ("field", some .field)
    (List.forall_mem_cons.mpr ⟨rfl, List.forall_mem_cons.mpr ⟨rfl, nofun⟩⟩) hreading

theorem objectForm_fieldNamed (hn : '"' ∉ n) (hline : ∀ c ∈ n, inLine c) :
    objectForm.first? (fieldNamed n) = some (.object none (some .field) n false) := by
  let accept : Text × Bool → Text → Option Target := fun r rest =>
    ending Target rest fun _ _ => some (ofKindWord none (Text.lower "field") r.1 r.2)
  have hquoted : quotedName '"' Target (Quote.literal '"' n) (fun name => accept (name, false)) =
      some (.object none (some .field) n false) := quotedName_literal hn hline rfl
  have hname : name Target (Quote.literal '"' n) accept =
      some (.object none (some .field) n false) := or_of_some hquoted
  have hblanks : blanks1 Target (' ' :: Quote.literal '"' n)
      (fun _ rest => name Target rest accept) = name Target (Quote.literal '"' n) accept :=
    blanks1_eq (b := ' ') rfl (by decide) _ _
  rw [objectForm_eq, layer_fieldNamed]
  exact kindWord_field (hblanks.trans hname)

/-- As a target the words mean a field on any layer. -/
theorem ofText_fieldNamed (hn : '"' ∉ n) (hline : ∀ c ∈ n, inLine c) :
    ofText (fieldNamed n) = .object none (some .field) n false := by
  have hhead : (Text.lower (fieldNamed n)).head? = some 'f' := rfl
  have hme : Text.lower (fieldNamed n) ≠ "me" := by
    intro h
    rw [h] at hhead
    exact absurd hhead (by decide)
  have horigin : originForm.first? (fieldNamed n) = none := rfl
  have hcontainer : containerForm.first? (fieldNamed n) = none := rfl
  rw [ofText, trim_fieldNamed, if_neg hme, horigin, hcontainer, objectForm_fieldNamed hn hline]
  rfl

end Target

/-! ### As a container -/

namespace Handler

/-- The form of a field, one part after the other. -/
theorem fieldForm_eq (t : Text) :
    fieldForm.first? t =
      optional (do let layer ← Target.layerWord; blanks1; return layer) _ t fun layer t =>
        Search.or (word "field") (word "fld") _ t fun _ t => blanks1 _ t fun _ t =>
          rest1 _ t fun name _ => some (layer, name) := rfl

theorem fieldForm_fieldNamed (hline : ∀ c ∈ n, inLine c) :
    fieldForm.first? (fieldNamed n) = some (none, Quote.literal '"' n) := by
  let accept : Text → Text → Option (Option Layer × Text) := fun name _ =>
    if !name.isEmpty then some (none, name) else none
  have hinLine : ∀ c ∈ Quote.literal '"' n, inLine c := Quote.forall_literal (by decide) hline
  have hblanks : blanks1 _ (' ' :: Quote.literal '"' n)
      (fun _ rest => Search.rest _ rest accept) = some (none, Quote.literal '"' n) :=
    (blanks1_eq (b := ' ') rfl (by decide) _ _).trans (rest_eq hinLine accept)
  rw [fieldForm_eq, Target.layer_fieldNamed]
  exact or_of_some hblanks

theorem isQuoted_literal : isQuoted (Quote.literal '"' n) = true := by
  rw [isQuoted, Quote.trim_literal (.inl rfl)]
  rfl

end Handler

/-! ### The field itself -/

namespace Scene

variable {s : Scene} {card : Card}

/-- As a target a field is looked up by its name on any layer. -/
theorem resolveTarget_fieldNamed (hn : '"' ∉ n) (hline : ∀ c ∈ n, inLine c) (v : Variables) :
    s.resolveTarget v (fieldNamed n) = s.findObjectOrHeld v n (some .field) none false := by
  rw [resolveTarget, Target.ofText_fieldNamed hn hline]
  rfl

/-- A field that has the name or the identifier is found, unless another one comes before it. -/
theorem exists_fieldNamed (hcard : s.cards[s.current]? = some card)
    (hfield : ∃ r ∈ s.near card, r.2.kind = .field ∧ r.2.isNamed n) :
    ∃ place field, s.entity? place = some (.part field) ∧ field.kind = .field ∧ field.isNamed n ∧
      ∀ v, s.findObjectOrHeld v n (some .field) none false = .ok (some place) := by
  obtain ⟨r, hr, hkind, hnamed⟩ := hfield
  have hsome : ((s.near card).find? fun r => Part.Kind.field == r.2.kind && r.2.isNamed n).isSome :=
    List.find?_isSome.mpr ⟨r, hr, by rw [hkind, hnamed]; rfl⟩
  obtain ⟨first, hfirst⟩ := Option.isSome_iff_exists.mp hsome
  have hmatches := List.find?_some hfirst
  rw [Bool.and_eq_true, beq_iff_eq] at hmatches
  refine ⟨first.1, first.2, entity?_near hcard (List.mem_of_find?_eq_some hfirst),
    hmatches.1.symm, hmatches.2, fun v => ?_⟩
  have hfind : s.findObject n (some .field) none = .ok (some first.1) := by
    show (do
      let parts ← s.nearest
      return (parts.find? fun r => Part.Kind.field == r.2.kind && r.2.isNamed n).map Prod.fst
        : Except Fault (Option Place)) = _
    rw [nearest_ok hcard]
    exact congrArg (fun found => Except.ok (found.map Prod.fst)) hfirst
  rw [findObjectOrHeld, hfind]
  rfl

end Scene

end CardTalk
