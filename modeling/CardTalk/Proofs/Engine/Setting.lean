/-
Setting the text of a field is putting a text into it.

`put` finds a field as a container and `set` finds it as a target, and what is given to the field
is a content for one and a property for the other.  Both mean the same field and write the same
text into it (`set_text_is_put`), with one exception: a text that is the short form of a colour is
set in full, as the value of any property is, and put as it stands (`set_text_expands`).
-/
import CardTalk.Proofs.Color
import CardTalk.Proofs.Engine.Unresolved
import CardTalk.Proofs.Script.Set

namespace CardTalk

open Target (fieldNamed)

/-- Setting the text of a field replaces its content. -/
theorem Entity.setProperty_text {field : Part} {old : Text} (hcontent : field.content? = some old)
    (value : Text) :
    (Entity.part field).setProperty "the text" value =
      .made (.part (field.withContent (Color.expandTriple value))) := by
  have hcanonical : Property.canonical "the text" = ("content" : Text) := by decide
  have hwritable : ¬Property.readOnly.contains "content" := by decide
  have hgeometry : Property.Geometry.ofName? "content" = none := by decide
  have hname : Attribute.Name.ofProperty? "content" = some .content := by decide
  have hread : (Entity.part field).read .content = some (.text old) := Part.read_content hcontent
  unfold setProperty
  rw [hcanonical]
  dsimp only
  rw [if_neg hwritable, hgeometry, hname]
  dsimp only
  rw [Property.writeAttribute, hread]
  exact congrArg (fun p => Property.Change.made (.part p)) (Part.write_content hcontent _)

namespace Handler

open Engine

section

variable {e : Engine} {c : Context} {card : Card} {place : Place} {n old value : Text}

/-- A field that a name finds is found as a target. -/
theorem target?_fieldNamed (hn : '"' ∉ n) (hline : ∀ d ∈ n, Search.inLine d)
    {place? : Option Place}
    (hplace : e.scene.findObjectOrHeld ⟨e.registers, c⟩ n (some .field) none false = .ok place?) :
    target? (fieldNamed n) (e, c) = .finished (.ok (place?.bind fun place =>
      (e.scene.entity? place).map fun x => (place, x))) (e, c) := by
  rw [target?_eq, Scene.resolveTarget_fieldNamed hn hline, hplace]
  rfl

/-- Setting the text of a field to a literal writes it in full, and shows and saves the change. -/
theorem perform_setText {dispatch : Dispatch} {q : Char} (hq : q = '"' ∨ q = '\'') (hv : q ∉ value)
    (hn : '"' ∉ n) (hline : ∀ d ∈ n, Search.inLine d)
    (hplace : e.scene.findObjectOrHeld ⟨e.registers, c⟩ n (some .field) none false =
      .ok (some place)) (hold : e.scene.textAt? place = some old) :
    perform dispatch (.set "the text" (some (fieldNamed n)) (Quote.literal q value)) (e, c) =
      (notifyChanged { e with
        scene := e.scene.writing place (Color.expandTriple value) }).beside c := by
  obtain ⟨field, hentity, hcontent⟩ := Scene.exists_field hold
  have hvalue : evaluate (Quote.literal q value) (e, c) = .finished (.ok value) (e, c) :=
    evaluate_ok (Expr.evaluate_literal _ hq hv)
  have hperform : perform dispatch (.set "the text" (some (fieldNamed n)) (Quote.literal q value))
      (e, c) = (evaluate (Quote.literal q value) (e, c)).bind fun value =>
        setOf "the text" (fieldNamed n) (Color.expandTriple value) := rfl
  have htarget : target? (fieldNamed n) (e, c) =
      .finished (.ok (some (place, .part field))) (e, c) := by
    rw [target?_fieldNamed hn hline hplace, Option.bind_some, hentity]
    rfl
  -- the verb expands the value, and so does writing the property once more
  have hset : (Entity.part field).setProperty "the text" (Color.expandTriple value) =
      .made (.part (field.withContent (Color.expandTriple value))) := by
    rw [Entity.setProperty_text hcontent, Color.expandTriple_expandTriple]
  rw [hperform, hvalue, Run.bind, Scene.writing_part hentity]
  show (target? (fieldNamed n) (e, c)).bind _ = _
  rw [htarget, Run.bind]
  dsimp only
  rw [setProperty, hset]
  rfl

/-- Putting a literal into a field that is not found only warns. -/
theorem perform_put_missing {dispatch : Dispatch} {q : Char} (hq : q = '"' ∨ q = '\'')
    (hv : q ∉ value) (hline : ∀ d ∈ n, Search.inLine d) (p : Preposition)
    (hplace : e.scene.findObjectOrHeld ⟨e.registers, c⟩ n (some .field) none false = .ok none) :
    perform dispatch (.put (Quote.literal q value) (some (p, fieldNamed n))) (e, c) =
      .finished (.ok ())
        (warned (("put: could not find field " : Text) ++ Quote.literal '"' n) e, c) := by
  have hvalue : evaluate (Quote.literal q value) (e, c) = .finished (.ok value) (e, c) :=
    evaluate_ok (Expr.evaluate_literal _ hq hv)
  have hperform : perform dispatch (.put (Quote.literal q value) (some (p, fieldNamed n))) (e, c) =
      (evaluate (Quote.literal q value) (e, c)).bind fun value =>
        putInto (fieldNamed n) value p := rfl
  have hview : ∀ next : View → Handler Unit, (view >>= next) (e, c) =
      next ⟨e.scene, ⟨e.registers, c⟩, e.surroundings⟩ (e, c) := fun _ => rfl
  have hquoted : e.scene.findObjectOrHeld ⟨e.registers, c⟩ (Quote.strip (Quote.literal '"' n))
      (some .field) none (!isQuoted (Quote.literal '"' n)) = .ok none := by
    rw [Quote.strip_literal (.inl rfl), isQuoted_literal]
    exact hplace
  rw [hperform, hvalue, Run.bind, putInto, if_neg (fieldNamed_ne_it n),
    fieldForm_fieldNamed hline]
  dsimp only
  rw [putIntoField, hview]
  dsimp only
  rw [hquoted]
  rfl

/-- A script that sets the text of a field by its name does just that. -/
theorem runStatements_setText (dispatch : Dispatch) {v n : Text} (hv : '"' ∉ v) (hn : '"' ∉ n)
    (hline : ∀ d ∈ v ++ n, ¬Text.isLineEnd d) :
    runStatements dispatch (Script.statements (Command.setTextStatement v n)) =
      perform dispatch (.set "the text" (some (fieldNamed n)) (Quote.literal '"' v)) :=
  runStatements_lone dispatch (Script.statements_set hv hn hline) (Script.ofText_set _)
    (Command.ofStatement?_setText hn fun d hd => Script.inLine_of_not_isLineEnd (hline d hd))

end

/-! ### Two runs that write the same text -/

/-- Two runs from one engine give the field with a name the same text.  Either they write it into a
field that is there, show and save the change once and end with the same outcome in the same state;
or there is no such field near the card, and each of them only warns. -/
inductive GiveText (e : Engine) (c : Context) (card : Card) (n text : Text)
    (first second : Run (Engine × Context) Unit) : Prop
  | written {place : Place} {field : Part} {outcome : Except Fault Unit} {e' : Engine}
      (hentity : e.scene.entity? place = some (.part field)) (hkind : field.kind = .field)
      (hnamed : field.isNamed n)
      (hsteady : Steady { e with
        scene := e.scene.replace place (.part (field.withContent text)) } e')
      (hglobals : e'.hostState = e.hostState) (hnotified : Notified e e' outcome)
      (hfirst : first = .finished outcome (e', c)) (hsecond : second = .finished outcome (e', c)) :
      GiveText e c card n text first second
  | missing {warning warning' : Text}
      (hnone : ∀ r ∈ e.scene.near card, r.2.kind = .field → ¬r.2.isNamed n)
      (hfirst : first = .finished (.ok ()) (warned warning e, c))
      (hsecond : second = .finished (.ok ()) (warned warning' e, c)) :
      GiveText e c card n text first second

section

variable {e : Engine} {c : Context} {card : Card} {v n : Text}

/-- Where there is such a field, both write it. -/
theorem GiveText.of_exists (dispatch : Dispatch)
    (hcard : e.scene.cards[e.scene.current]? = some card)
    (hfield : ∃ r ∈ e.scene.near card, r.2.kind = .field ∧ r.2.isNamed n) (hv : '"' ∉ v)
    (hfull : '"' ∉ Color.expandTriple v) (hn : '"' ∉ n) (hline : ∀ d ∈ n, Search.inLine d) :
    GiveText e c card n (Color.expandTriple v)
      (perform dispatch (.put (Quote.literal '"' (Color.expandTriple v))
        (some (.into, fieldNamed n))) (e, c))
      (perform dispatch (.set "the text" (some (fieldNamed n)) (Quote.literal '"' v)) (e, c)) := by
  obtain ⟨place, field, hentity, hkind, hnamed, hfind⟩ := Scene.exists_fieldNamed hcard hfield
  obtain ⟨old, hcontent⟩ := Part.exists_content hkind
  have hold : e.scene.textAt? place = some old := (Scene.textAt?_part hentity).trans hcontent
  have hcurrent : e.scene.HasCurrent := (List.getElem?_eq_some_iff.mp hcard).1
  let written : Engine := { e with scene := e.scene.writing place (Color.expandTriple v) }
  have hwritten : written.scene.HasCurrent :=
    Scene.hasCurrent_of_outline (Scene.outline_writing ..) hcurrent
  obtain ⟨outcome, e', hnotify, hsteady, hglobals, hnotified⟩ := notifyChanged_notified hwritten
  have hput : perform dispatch (.put (Quote.literal '"' (Color.expandTriple v))
      (some (.into, fieldNamed n))) (e, c) = (notifyChanged written).beside c :=
    perform_put (.inl rfl) hfull (means_fieldNamed hline (hfind _)) hold
  have hset : perform dispatch (.set "the text" (some (fieldNamed n)) (Quote.literal '"' v))
      (e, c) = (notifyChanged written).beside c :=
    perform_setText (.inl rfl) hv hn hline (hfind _) hold
  rw [hnotify] at hput hset
  refine .written hentity hkind hnamed ?_ hglobals hnotified.of_scene hput hset
  rw [← Scene.writing_part hentity]
  exact hsteady

/-- Where there is none, neither finds another. -/
theorem GiveText.of_not_exists (dispatch : Dispatch)
    (hcard : e.scene.cards[e.scene.current]? = some card)
    (hnone : ∀ r ∈ e.scene.near card, r.2.kind = .field → ¬r.2.isNamed n) (hv : '"' ∉ v)
    (hfull : '"' ∉ Color.expandTriple v) (hn : '"' ∉ n) (hline : ∀ d ∈ n, Search.inLine d) :
    GiveText e c card n (Color.expandTriple v)
      (perform dispatch (.put (Quote.literal '"' (Color.expandTriple v))
        (some (.into, fieldNamed n))) (e, c))
      (perform dispatch (.set "the text" (some (fieldNamed n)) (Quote.literal '"' v)) (e, c)) := by
  have hplace : e.scene.findObjectOrHeld ⟨e.registers, c⟩ n (some .field) none false =
      .ok none := by
    rcases Scene.findObjectOrHeld_cases hcard none (some .field) n false with
      ⟨place, -, hnames⟩ | ⟨hmissed, -⟩
    · cases hnames with
      | object hr hkind hanswers => exact absurd hanswers (hnone _ hr (hkind _ rfl).symm)
    · exact hmissed
  have hset : perform dispatch (.set "the text" (some (fieldNamed n)) (Quote.literal '"' v))
      (e, c) = .finished (.ok ()) (warned (("set: could not find target " : Text) ++
        Text.trim (fieldNamed n)) e, c) := by
    rw [perform_targetless dispatch (.ok ()) rfl (target?_fieldNamed hn hline hplace),
      Command.value?, Option.mapM_some, Expr.evaluate_literal _ (.inl rfl) hv]
    rfl
  exact .missing hnone (perform_put_missing (.inl rfl) hfull hline .into hplace) hset

/-- What is set is what is put in full. -/
theorem giveText_expandTriple (dispatch : Dispatch) (e : Engine) (c : Context) (hv : '"' ∉ v)
    (hn : '"' ∉ n) (hline : ∀ d ∈ v ++ n, ¬Text.isLineEnd d)
    (hcard : e.scene.cards[e.scene.current]? = some card) :
    GiveText e c card n (Color.expandTriple v)
      (runStatements dispatch (Script.statements
        (Command.putStatement '"' (Color.expandTriple v) .into (fieldNamed n))) (e, c))
      (runStatements dispatch (Script.statements (Command.setTextStatement v n)) (e, c)) := by
  obtain ⟨hlinev, hlinen⟩ := List.forall_mem_append.mp hline
  have hinName : ∀ d ∈ n, Search.inLine d := fun d hd =>
    Script.inLine_of_not_isLineEnd (hlinen d hd)
  have hfull : '"' ∉ Color.expandTriple v := Color.not_mem_expandTriple (by decide) hv
  have hlinefull : ∀ d ∈ Color.expandTriple v ++ n, ¬Text.isLineEnd d :=
    List.forall_mem_append.mpr
      ⟨Color.forall_expandTriple (List.any_eq_false.mp (by decide)) hlinev, hlinen⟩
  rw [runStatements_put dispatch hfull hn .into hlinefull,
    runStatements_setText dispatch hv hn hline]
  by_cases hfield : ∃ r ∈ e.scene.near card, r.2.kind = .field ∧ r.2.isNamed n
  · exact .of_exists dispatch hcard hfield hv hfull hn hinName
  · exact .of_not_exists dispatch hcard (fun r hr hkind hnamed => hfield ⟨r, hr, hkind, hnamed⟩)
      hv hfull hn hinName

end

/-- **Setting the text of a field is putting the text into it**, whatever the text is that the
statements have between their quotes, unless it is the short form of a colour with or without
blanks around it.  Such a text is set in full, as putting the full form would give it. -/
theorem set_text_is_put (dispatch : Dispatch) (e : Engine) (c : Context) {v n : Text}
    (hv : '"' ∉ v) (hn : '"' ∉ n) (hline : ∀ d ∈ v ++ n, ¬Text.isLineEnd d) {card : Card}
    (hcard : e.scene.cards[e.scene.current]? = some card) :
    let run := fun statement => runStatements dispatch (Script.statements statement) (e, c)
    let put := fun text => run (Command.putStatement '"' text .into (fieldNamed n))
    let set := run (Command.setTextStatement v n)
    (¬Color.Triple (Text.trim v) → GiveText e c card n v (put v) set) ∧
    (Color.Triple (Text.trim v) →
      let full := ("rgb(" : Text) ++ Text.trim v ++ ")"
      GiveText e c card n full (put full) set) := by
  intro run put set
  have hgive := giveText_expandTriple dispatch e c hv hn hline hcard
  refine ⟨fun hother => ?_, fun htriple => ?_⟩
  · rwa [Color.expandTriple_other hother] at hgive
  · rwa [Color.expandTriple_triple htriple] at hgive

end Handler

namespace Engine

/-- The words of the statements and an apostrophe do not matter in a text, and a triple is set as
the colour that it is short for. -/
theorem set_text_is_put_labelled :
    let e := labelled "Note"
    let run := fun statement =>
      Handler.runStatements (dispatchAt 0) (Script.statements statement) (e, {})
    let put := fun text => run (Command.putStatement '"' text .into (fieldNamed "NOTE"))
    let set := fun text => run (Command.setTextStatement text "NOTE")
    let text : Text := "Don't set 1,2 of (it) to"
    ¬Color.Triple (Text.trim text) ∧ Color.Triple (Text.trim " 255, 0,0") ∧
      ∃ e₁ e₂, put text = .finished (.ok ()) (e₁, {}) ∧ set text = .finished (.ok ()) (e₁, {}) ∧
        put "rgb(255, 0,0)" = .finished (.ok ()) (e₂, {}) ∧
        set " 255, 0,0" = .finished (.ok ()) (e₂, {}) ∧
        e₁.trace = [.save, .render] ∧ e₂.trace = [.save, .render] := by
  intro e run put set text
  obtain ⟨card, hcard, hfield⟩ : ∃ card ∈ e.scene.cards[e.scene.current]?,
      ∃ r ∈ e.scene.near card, r.2.kind = .field ∧ r.2.isNamed "NOTE" := by decide +kernel
  have hwritten : ∀ {text : Text} {first second : Run (Engine × Context) Unit},
      Handler.GiveText e {} card "NOTE" text first second →
        ∃ e', first = .finished (.ok ()) (e', {}) ∧ second = .finished (.ok ()) (e', {}) ∧
          e'.trace = [.save, .render] := by
    intro text first second h
    cases h with
    | missing hnone =>
        obtain ⟨r, hr, hkind, hnamed⟩ := hfield
        exact absurd hnamed (hnone r hr hkind)
    | written _ _ _ _ _ hnotified hfirst hsecond =>
        cases hnotified with
        | unshown hrender => exact nomatch hrender
        | unsaved _ hsave => exact nomatch hsave
        | saved _ _ htrace => exact ⟨_, hfirst, hsecond, htrace⟩
  have hother : ¬Color.Triple (Text.trim text) := by decide +kernel
  have htriple : Color.Triple (Text.trim " 255, 0,0") := by decide +kernel
  obtain ⟨e₁, hput, hset, htrace⟩ := hwritten ((Handler.set_text_is_put (dispatchAt 0) e {}
    (v := text) (n := "NOTE") (by decide) (by decide) (List.any_eq_false.mp (by decide))
    hcard).1 hother)
  obtain ⟨e₂, hput', hset', htrace'⟩ := hwritten ((Handler.set_text_is_put (dispatchAt 0) e {}
    (v := " 255, 0,0") (n := "NOTE") (by decide) (by decide) (List.any_eq_false.mp (by decide))
    hcard).2 htriple)
  exact ⟨hother, htriple, e₁, e₂, hput, hset, hput', hset', htrace, htrace'⟩

/-- The one text that is set in another form than it is put. -/
theorem set_text_expands :
    let e := labelled "Note"
    let v : Text := "255,0,0"
    let after := fun statement => (Handler.runStatements (dispatchAt 0)
      (Script.statements statement) (e, {})).complete.2.1
    let put := after (Command.putStatement '"' v .into (fieldNamed "Note"))
    let set := after (Command.setTextStatement v "Note")
    ('"' ∉ v ∧ '"' ∉ ("Note" : Text) ∧ ∀ d ∈ v ++ "Note", ¬Text.isLineEnd d) ∧
      (∃ card ∈ e.scene.cards[e.scene.current]?,
        ∃ r ∈ e.scene.near card, r.2.kind = .field ∧ r.2.isNamed "Note") ∧
      put.scene.textAt? (.cardPart 0 0) = some v ∧
      set.scene.textAt? (.cardPart 0 0) = some "rgb(255,0,0)" ∧ put ≠ set := by
  intro e v after put set
  have hput : put.scene.textAt? (.cardPart 0 0) = some v := by decide +kernel
  have hset : set.scene.textAt? (.cardPart 0 0) = some "rgb(255,0,0)" := by decide +kernel
  refine ⟨⟨by decide, by decide, List.any_eq_false.mp (by decide)⟩, by decide +kernel, hput, hset,
    fun h => ?_⟩
  rw [h, hset] at hput
  exact absurd hput (by decide)

end Engine

end CardTalk
