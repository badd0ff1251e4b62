/-
What is put into a field is what the field reads.

A field that a script names as `field "N"` is written by a command and read by an expression.
Whatever the name and the text hold, except double quotes and line ends, both mean the same
field, and what is read after the command is what the command has put together from the text
and what was there (`put_reads_back`).  Nothing else changes: the command writes this field,
asks for one rendering and, unless that is refused, for one saving.

A name that is empty names no field, and neither does a field without a name
(`put_nameless`).
-/
import CardTalk.Proofs.Conduct.Basic
import CardTalk.Proofs.Engine.Outside
import CardTalk.Proofs.Scene.Attribute
import CardTalk.Proofs.Scene.Content
import CardTalk.Proofs.Scene.Named
import CardTalk.Proofs.Script.Put
import CardTalk.Engine.Message
import CardTalk.Scene.Definition
import CardTalk.Host.Line.Runtime

namespace CardTalk

open Target (fieldNamed)

/-! ### Putting a text into a field -/

namespace Handler

open Engine

/-- A container that names a field: the one at this place. -/
structure Means (s : Scene) (v : Variables) (container : Text) (place : Place) : Prop where
  ne_it : Text.lower container ≠ "it"
  found : ∃ layer name, fieldForm.first? container = some (layer, name) ∧
    s.findObjectOrHeld v (Quote.strip name) (some .field) layer (!isQuoted name) = .ok (some place)

/-- Which field is meant does not depend on what is in the fields. -/
theorem Means.of_outline {s s' : Scene} {v : Variables} {container : Text} {place : Place}
    (h : Means s v container place) (houtline : s'.outline = s.outline) :
    Means s' v container place := by
  obtain ⟨layer, name, hform, hplace⟩ := h.found
  refine ⟨h.ne_it, layer, name, hform, ?_⟩
  rw [← hplace, ← Scene.findObjectOrHeld_outline, houtline, Scene.findObjectOrHeld_outline]

theorem fieldNamed_ne_it (n : Text) : Text.lower (fieldNamed n) ≠ "it" := by
  have hhead : (Text.lower (fieldNamed n)).head? = some 'f' := rfl
  intro hit
  rw [hit] at hhead
  exact absurd hhead (by decide)

theorem means_fieldNamed {s : Scene} {v : Variables} {n : Text} {place : Place}
    (hline : ∀ d ∈ n, Search.inLine d)
    (hplace : s.findObjectOrHeld v n (some .field) none false = .ok (some place)) :
    Means s v (fieldNamed n) place := by
  refine ⟨fieldNamed_ne_it n, none, Quote.literal '"' n, fieldForm_fieldNamed hline, ?_⟩
  rw [Quote.strip_literal (.inl rfl), isQuoted_literal]
  exact hplace

section

variable {e : Engine} {c : Context} {p : Preposition} {place : Place} {old value container : Text}

/-- Evaluating leaves no trace. -/
theorem evaluate_eq (source : Text) (e : Engine) (c : Context) :
    evaluate source (e, c) =
      .finished (Expr.evaluate ⟨e.scene, ⟨e.registers, c⟩, e.surroundings⟩ source) (e, c) := rfl

theorem evaluate_ok {source : Text}
    (h : Expr.evaluate ⟨e.scene, ⟨e.registers, c⟩, e.surroundings⟩ source = .ok value) :
    evaluate source (e, c) = .finished (.ok value) (e, c) := by
  rw [evaluate_eq, h]

/-- Putting a value into a field that is found writes it, and shows and saves the change. -/
theorem putIntoField_eq {layer : Option Layer} {name : Text}
    (hplace : e.scene.findObjectOrHeld ⟨e.registers, c⟩ (Quote.strip name) (some .field) layer
      (!isQuoted name) = .ok (some place)) (hold : e.scene.textAt? place = some old) :
    putIntoField layer name value p (e, c) = (notifyChanged
      { e with scene := e.scene.writing place (combined p old value) }).beside c := by
  obtain ⟨field, hentity, hcontent⟩ := Scene.exists_field hold
  have hview : ∀ next : View → Handler Unit, (view >>= next) (e, c) =
      next ⟨e.scene, ⟨e.registers, c⟩, e.surroundings⟩ (e, c) := fun _ => rfl
  have hok : ∀ next : Option Place → Handler Unit,
      (liftM (Except.ok (some place) : Except Fault _) >>= next) (e, c) =
        next (some place) (e, c) := fun _ => rfl
  have hgetD : field.content?.getD [] = old := by rw [hcontent]; rfl
  rw [putIntoField, hview]
  dsimp only
  rw [hplace, hok, Option.bind_some, hentity, Scene.writing_part hentity, ← hgetD]
  rfl

/-- Putting a literal into a container that means a field. -/
theorem perform_put {dispatch : Dispatch} {q : Char} (hq : q = '"' ∨ q = '\'') (hv : q ∉ value)
    (hmeans : Means e.scene ⟨e.registers, c⟩ container place)
    (hold : e.scene.textAt? place = some old) :
    perform dispatch (.put (Quote.literal q value) (some (p, container))) (e, c) = (notifyChanged
      { e with scene := e.scene.writing place (combined p old value) }).beside c := by
  obtain ⟨layer, name, hform, hplace⟩ := hmeans.found
  have hvalue : evaluate (Quote.literal q value) (e, c) = .finished (.ok value) (e, c) :=
    evaluate_ok (Expr.evaluate_literal _ hq hv)
  have hperform : perform dispatch (.put (Quote.literal q value) (some (p, container))) (e, c) =
      (evaluate (Quote.literal q value) (e, c)).bind fun value => putInto container value p := rfl
  rw [hperform, hvalue, Run.bind, putInto, if_neg hmeans.ne_it, hform]
  exact putIntoField_eq hplace hold

end

/-- Statements of no block are carried out one after the other. -/
theorem runStatements_commands (dispatch : Dispatch) {statements : List Text}
    (h : ∀ t ∈ statements, Script.Line.ofText t = .command t) :
    runStatements dispatch statements = runNodes dispatch (statements.map .command) := by
  rw [runStatements, Script.blockWarnings_commands h, Script.blocks_commands h]
  rfl

/-- A command is carried out by its verb. -/
theorem runNodes_cons (dispatch : Dispatch) {statement : Text} {command : Command}
    (h : Command.ofStatement? statement = some command) (rest : List Script.Node)
    (s : Engine × Context) :
    runNodes dispatch (.command statement :: rest) s =
      (perform dispatch command s).bind fun _ => runNodes dispatch rest := by
  have hexecute : execute dispatch statement = do
      perform dispatch command
      return true := by
    rw [execute, h]
  have hnode : runNode dispatch (.command statement) = perform dispatch command := by
    rw [runNode, hexecute, bind_assoc]
    exact bind_pure _
  have hcons : runNodes dispatch (.command statement :: rest) =
      (runNode dispatch (.command statement) >>= fun _ => runNodes dispatch rest) := by
    rw [runNodes]
  rw [hcons, hnode]
  rfl

/-- A statement by itself is carried out by its verb. -/
theorem runStatements_lone (dispatch : Dispatch) {statement : Text} {command : Command}
    (hstatements : Script.statements statement = [statement])
    (hline : Script.Line.ofText statement = .command statement)
    (h : Command.ofStatement? statement = some command) :
    runStatements dispatch (Script.statements statement) = perform dispatch command := by
  have hnil : runNodes dispatch [] = pure () := by rw [runNodes]
  funext s
  rw [hstatements, runStatements_commands dispatch (List.forall_mem_singleton.mpr hline),
    List.map_singleton, runNodes_cons _ h, hnil]
  exact congrFun (bind_pure (perform dispatch command)) s

/-- A script that puts a literal into a field by its name does just that. -/
theorem runStatements_put (dispatch : Dispatch) {v n : Text} (hv : '"' ∉ v) (hn : '"' ∉ n)
    (p : Preposition) (hline : ∀ d ∈ v ++ n, ¬Text.isLineEnd d) :
    runStatements dispatch (Script.statements (Command.putStatement '"' v p (fieldNamed n))) =
      perform dispatch (.put (Quote.literal '"' v) (some (p, fieldNamed n))) := by
  have hinLine : ∀ d ∈ v ++ n, Search.inLine d := fun d hd =>
    Script.inLine_of_not_isLineEnd (hline d hd)
  have hinContainer : ∀ d ∈ v ++ fieldNamed n, Search.inLine d :=
    List.forall_mem_append.mpr ⟨fun d hd => hinLine d (List.mem_append_left _ hd),
      Target.forall_fieldNamed (List.all_eq_true.mp (by decide)) (by decide)
        fun d hd => hinLine d (List.mem_append_right _ hd)⟩
  exact runStatements_lone dispatch (Script.statements_put hv hn p hline) (Script.ofText_put _)
    (Command.ofStatement?_put (.inl rfl) hv p (Target.fieldNamed_ne_nil n)
      (Target.trim_fieldNamed n) hinContainer)

end Handler

/-! ### The text of a field as an expression -/

namespace Expr

/-- The expression for the text of a field with a name. -/
def textOf (n : Text) : Text := ("the text of " : Text) ++ fieldNamed n

/-- The tokens of the expression. -/
def textTokens (n : Text) : List Token :=
  [⟨.word, "the", 0, 3⟩, ⟨.word, "text", 4, 8⟩, ⟨.word, "of", 9, 11⟩, ⟨.word, "field", 12, 17⟩,
    ⟨.string, n, 18, n.length + 20⟩]

variable {n : Text}

theorem scan_textOf (hn : '"' ∉ n) : Token.scan (textOf n) = textTokens n := by
  let name : Token.Lexeme := .string n hn
  have hlast : Token.row [name] = Quote.literal '"' n := by
    simp [Token.row, Text.joined, List.intercalate, name, Token.Lexeme.written, Quote.literal]
  have hlength : name.written.length = n.length + 2 := by simp [name, Token.Lexeme.written]
  have hrow : textOf n = Token.row [.word "the" (by decide), .word "text" (by decide),
      .word "of" (by decide), .word "field" (by decide), name] := by
    rw [Token.row_cons, Token.row_cons, Token.row_cons, Token.row_cons, hlast]
    rfl
  have htoken : name.token 18 = ⟨.string, n, 18, n.length + 20⟩ := by
    rw [Token.Lexeme.token, hlength, Nat.add_comm 18]
    rfl
  rw [hrow, Token.scan_row_eq, textTokens, ← htoken]
  rfl

/-- The expression is one atom. -/
theorem parse_textOf (hn : '"' ∉ n) : parse (textOf n) = .atom (textOf n) (textTokens n) := by
  have hlength : (textOf n).length = n.length + 20 := by
    have hfixed : (textOf n).length = (n ++ ['"']).length + 19 := rfl
    rw [hfixed, List.length_append]
    rfl
  have hspan : Cursor.span (textOf n) 0 ⟨[], n.length + 20⟩ = textOf n := by
    rw [Cursor.span, List.take_of_length_le hlength.le, List.drop_zero]
  have hread : operandStep (textOf n) (readLevel (textOf n) 0) (readArgs (textOf n))
      ⟨textTokens n, 0⟩ = (.atom (Cursor.span (textOf n) 0 ⟨[], n.length + 20⟩) (textTokens n),
        ⟨[], n.length + 20⟩) := rfl
  rw [hspan] at hread
  exact parse_operand (scan_textOf hn) (by decide) (by decide) hread

theorem trim_textOf (n : Text) : Text.trim (textOf n) = textOf n := by
  refine Text.trim_of_not_isBlank (fun c hc => ?_) fun c hc => ?_
  · obtain rfl : 't' = c := Option.some.inj hc
    decide
  · have hlast : textOf n = ("the text of " : Text) ++ (("field " : Text) ++ '"' :: n) ++ ['"'] :=
      rfl
    rw [hlast, List.getLast?_concat] at hc
    obtain rfl : '"' = c := Option.some.inj hc
    decide

/-- The content of a field is its property `text`. -/
theorem propertyOf_text {view : View} {place : Place} {field : Part} {old : Text}
    (hentity : view.scene.entity? place = some (.part field))
    (hcontent : field.content? = some old) : propertyOf view "text" place = .ok old := by
  have hnumber : (Text.lower "text" == ("number" : Text)) = false := by decide
  have hread : field.read .content = some (.text old) := Part.read_content hcontent
  have hproperty : (Entity.part field).property? "text" = .ok (some old) := by
    have hcanonical : Property.canonical "text" = ("content" : Text) := by decide
    have hkind : ¬("content" : Text) = "kind" := by decide
    have hgeometry : Property.Geometry.ofName? "content" = none := by decide
    have hname : Attribute.Name.ofProperty? "content" = some .content := by decide
    have hentity : (Attribute.Name.ofProperty? "content").bind (Entity.part field).read =
        some (.text old) := by
      rw [hname]
      exact hread
    unfold Entity.property?
    rw [hcanonical]
    dsimp only
    rw [if_neg hkind, hgeometry, hentity]
    rfl
  unfold propertyOf
  rw [hnumber, hentity]
  simp only [bind, hproperty]
  rfl

theorem evaluate_textOf (hn : '"' ∉ n) (hline : ∀ c ∈ n, Search.inLine c) {view : View}
    {place : Place} {old : Text}
    (hplace : view.scene.findObjectOrHeld view.bindings n (some .field) none false =
      .ok (some place)) (hold : view.scene.textAt? place = some old) :
    evaluate view (textOf n) = .ok old := by
  obtain ⟨field, hentity, hcontent⟩ := Scene.exists_field hold
  have hresolve : view.scene.resolveTarget view.bindings (fieldNamed n) = .ok (some place) :=
    (Scene.resolveTarget_fieldNamed hn hline _).trans hplace
  have hspecial : Special.of? (textTokens n) = none := rfl
  have hform : propertyForm? (textOf n) (textTokens n) =
      some (("text" : Text), fieldNamed n) := rfl
  have hproperty : propertyValue? view (textOf n) (textTokens n) = .ok (some old) := by
    rw [propertyValue?, hform]
    simp only [hresolve, bind, Except.bind, propertyOf_text hentity hcontent]
    rfl
  rw [evaluate, trim_textOf, parse_textOf hn, eval, evalAtom, hspecial]
  show (propertyValue? view (textOf n) (textTokens n) >>= fun value => _ : Except Fault Text) = _
  rw [hproperty]
  rfl

end Expr

/-! ### Put and read back -/

namespace Handler

open Engine

/-- **What is put into a field by its name is what the field with that name reads.**  The field
is one of the current card or its background that has the name, in any case, or has it for an
identifier; if there are several, it is the first in both readings.  The old content is read
before, and after it the text put in together with it, as the preposition says.  Nothing but
the content of this one field and the effects that a rendering uses up changes in the scene;
variables, `it` and the place of a search stay, and so do the variables of host scripts. -/
theorem put_reads_back (dispatch : Dispatch) (e : Engine) (c : Context) (p : Preposition)
    {v n : Text} (hv : '"' ∉ v) (hn : '"' ∉ n) (hline : ∀ d ∈ v ++ n, ¬Text.isLineEnd d)
    {card : Card} (hcard : e.scene.cards[e.scene.current]? = some card)
    (hfield : ∃ r ∈ e.scene.near card, r.2.kind = .field ∧ r.2.isNamed n) :
    let statement := Command.putStatement '"' v p (fieldNamed n)
    ∃ place field old outcome e',
      e.scene.entity? place = some (.part field) ∧ field.isNamed n ∧ field.content? = some old ∧
      runStatements dispatch (Script.statements statement) (e, c) = .finished outcome (e', c) ∧
      evaluate (Expr.textOf n) (e, c) = .finished (.ok old) (e, c) ∧
      evaluate (Expr.textOf n) (e', c) = .finished (.ok (combined p old v)) (e', c) ∧
      Steady { e with
        scene := e.scene.replace place (.part (field.withContent (combined p old v))) } e' ∧
      e'.hostState = e.hostState ∧ Notified e e' outcome := by
  intro statement
  obtain ⟨place, field, hentity, hkind, hnamed, hfind⟩ := Scene.exists_fieldNamed hcard hfield
  obtain ⟨old, hcontent⟩ := Part.exists_content hkind
  have hold : e.scene.textAt? place = some old := (Scene.textAt?_part hentity).trans hcontent
  have hcurrent : e.scene.HasCurrent := (List.getElem?_eq_some_iff.mp hcard).1
  have hinLine : ∀ d ∈ v ++ n, Search.inLine d := fun d hd =>
    Script.inLine_of_not_isLineEnd (hline d hd)
  have hinName : ∀ d ∈ n, Search.inLine d := fun d hd => hinLine d (List.mem_append_right _ hd)
  have hmeans : Means e.scene ⟨e.registers, c⟩ (fieldNamed n) place :=
    means_fieldNamed hinName (hfind _)
  let written : Engine := { e with scene := e.scene.writing place (combined p old v) }
  have hwritten : written.scene.HasCurrent :=
    Scene.hasCurrent_of_outline (Scene.outline_writing ..) hcurrent
  obtain ⟨outcome, e', hnotify, hsteady, hglobals, hnotified⟩ := notifyChanged_notified hwritten
  have hrun : runStatements dispatch (Script.statements statement) (e, c) =
      .finished outcome (e', c) := by
    rw [runStatements_put dispatch hv hn p hline, perform_put (.inl rfl) hv hmeans hold, hnotify]
    rfl
  have houtline : e'.scene.outline = e.scene.outline := by
    rw [← Scene.outline_takeEffects e'.scene, hsteady.scene, Scene.outline_takeEffects]
    exact Scene.outline_writing ..
  have hafter : e'.scene.textAt? place = some (combined p old v) := by
    rw [← Scene.textAt?_takeEffects, hsteady.scene, Scene.textAt?_takeEffects]
    exact Scene.textAt?_writing hold _
  have hfind' : ∀ v, e'.scene.findObjectOrHeld v n (some .field) none false = .ok (some place) :=
    fun v => by
      rw [← Scene.findObjectOrHeld_outline, houtline, Scene.findObjectOrHeld_outline]
      exact hfind v
  refine ⟨place, field, old, outcome, e', hentity, hnamed, hcontent, hrun,
    evaluate_ok (Expr.evaluate_textOf hn hinName (hfind _) hold),
    evaluate_ok (Expr.evaluate_textOf hn hinName (hfind' _) hafter), ?_, hglobals, ?_⟩
  · rw [← Scene.writing_part hentity]
    exact hsteady
  · exact hnotified.of_scene

end Handler

namespace Engine

/-- An engine on a card with one field, which holds a text. -/
def labelled (name : Text) : Engine :=
  let field : Part :=
    { id := "f", name, rect := ⟨.float 0, .float 0, .float 80, .float 20⟩, visible := true
      script := [], layer := "card", rotation := .float 0
      body := .field "old" "rectangle" [] [] (.float 16) false true }
  .new (.assemble (Stack.usual "s") [] [{ Card.usual "a" "A" with parts := [field] }] 0 0)
    { hostMarker := none, repeatLimit := .null, ticksPerSecond := .null
      serializeEvents := .ok true, idleInterval := .ok .null, isServed := .ok false }
    { console := none, replies := [], failure := fun _ => none }
    (.still .bare)

/-- What the text holds does not matter, and neither does the case of the name. -/
theorem put_reads_back_labelled :
    let v : Text := "Don't (put it) into -- "
    let e := labelled "Note"
    let statement := Command.putStatement '"' v .after (fieldNamed "NOTE")
    ∃ old e', Handler.evaluate (Expr.textOf "NOTE") (e, {}) = .finished (.ok old) (e, {}) ∧
      Handler.runStatements (dispatchAt 0) (Script.statements statement) (e, {}) =
        .finished (.ok ()) (e', {}) ∧
      Handler.evaluate (Expr.textOf "NOTE") (e', {}) =
        .finished (.ok (Handler.combined .after old v)) (e', {}) ∧
      e'.trace = [.save, .render] := by
  intro v e statement
  obtain ⟨card, hcard, hfield⟩ : ∃ card ∈ e.scene.cards[e.scene.current]?,
      ∃ r ∈ e.scene.near card, r.2.kind = .field ∧ r.2.isNamed "NOTE" := by decide +kernel
  obtain ⟨place, field, old, outcome, e', -, -, -, hrun, hbefore, hafter, -, -, hnotified⟩ :=
    Handler.put_reads_back (dispatchAt 0) e {} .after (v := v) (n := "NOTE") (by decide)
      (by decide) (List.any_eq_false.mp (by decide)) hcard hfield
  cases hnotified with
  | unshown hrender => exact nomatch hrender
  | unsaved _ hsave => exact nomatch hsave
  | saved _ _ htrace => exact ⟨old, e', hbefore, hrun, hafter, htrace⟩

/-- The empty name is no name: although a field has it, nothing is put into that field, nothing is
shown or saved, and what the property reads is not what was to be put. -/
theorem put_nameless :
    let e := labelled ""
    let statement := Command.putStatement '"' "V" .into (fieldNamed "")
    let after := (execute statement e).complete
    (∃ card ∈ e.scene.cards[e.scene.current]?,
      ∃ r ∈ e.scene.near card, r.2.kind = .field ∧ Text.lower r.2.name = Text.lower "") ∧
    after.1 = .ok () ∧ after.2.trace.all (fun x => x != .render && x != .save) ∧
    (evaluate (Expr.textOf "") after.2).complete.1 ≠ .ok "V" := by
  intro e statement after
  exact ⟨by decide +kernel, by decide +kernel, by decide +kernel, by decide +kernel⟩

end Engine

end CardTalk
