/-
Asking for the same term again and again enumerates every spot.

A find takes the spot that its cursor has ahead, goes to its card and stands there, so the
next find has the next spot ahead (`Proofs/Find/Spot.lean`).  What remains is that nothing
comes between: no script takes notice of leaving and entering cards, and showing, saving and
making a field stand out leave the cards and the cursor alone.  The presenter may fail in
any of these; that spoils what the find shows, but not where the next one goes on.
-/
import CardTalk.Proofs.Engine.Outside
import CardTalk.Proofs.Find.Spot
import CardTalk.Proofs.Scene.Path
import CardTalk.Engine.Dispatch
import CardTalk.Scene.Definition
import CardTalk.Host.Line.Runtime

namespace CardTalk

open Find

/-! ### Scenes without handlers -/

/-- The scripts that are told of leaving and entering cards. -/
def Scene.scripts (s : Scene) : List Text :=
  s.stack.script :: s.backgrounds.map (·.script) ++ s.cards.map (·.script)

namespace Engine

/-- A script does nothing when it is told of an event: it is blank, or it is no host-mode
script and has no handler for the event. -/
def Ignores (e : Engine) (event script : Text) : Prop :=
  Text.allBlank script = true ∨
    e.settings.hostMarker.any (Script.isHostMode script) = false ∧
      Script.handler? (Script.statements script) event = none

instance (e : Engine) (event script : Text) : Decidable (e.Ignores event script) :=
  inferInstanceAs (Decidable (_ ∨ _))

/-- No script of the stack, a background or a card has a handler for an event. -/
def IsQuiet (e : Engine) (event : Text) : Prop := ∀ script ∈ e.scene.scripts, e.Ignores event script

instance (e : Engine) (event : Text) : Decidable (e.IsQuiet event) :=
  inferInstanceAs (Decidable (∀ script ∈ _, _))

variable {e e' : Engine}

theorem dispatchAt_ignored (depth : Nat) {event script : Text} (origin : Option Text)
    (h : e.Ignores event script) :
    dispatchAt (depth + 1) event script origin e = .finished (.ok false) e := by
  show dispatchWith (dispatchAt depth) event script origin e = _
  unfold dispatchWith
  by_cases hblank : Text.allBlank script = true
  · rw [if_pos hblank]
    rfl
  · rw [if_neg hblank]
    rcases h with hblank' | ⟨hhost, hhandler⟩
    · exact absurd hblank' hblank
    · have hrun : runScript (dispatchAt depth) script event origin e = .finished (.ok false) e := by
        show (if e.settings.hostMarker.any (Script.isHostMode script) then _ else
          runHandler (dispatchAt depth) (Script.statements script) event origin
            : Action Engine Bool) e = _
        rw [if_neg (by rw [hhost]; exact Bool.false_ne_true), runHandler, hhandler]
        rfl
      show ((runScript (dispatchAt depth) script event origin e).attempt).bind _ = _
      rw [hrun]
      rfl

theorem dispatch_ignored {event script : Text} (origin : Option Text)
    (h : e.Ignores event script) : dispatch event script origin e = .finished (.ok false) e :=
  dispatchAt_ignored 199 origin h

theorem offerTo_ignored {event : Text} (origin : Option Text) {candidates : List Reference}
    (h : ∀ r ∈ candidates, e.Ignores event (e.scene.scriptOf r)) :
    offerTo dispatch event origin candidates e = .finished (.ok false) e := by
  induction candidates with
  | nil => rfl
  | cons r rest ih =>
      show (dispatch event (e.scene.scriptOf r) origin e).bind _ = _
      rw [dispatch_ignored origin (h r List.mem_cons_self)]
      exact ih fun r' hr' => h r' (List.mem_cons_of_mem _ hr')

end Engine

namespace Scene

/-- An event from a card is offered to scripts of the scene. -/
theorem scriptOf_path {s : Scene} {c : Card} (hcard : s.cards[s.current]? = some c) :
    ∀ place ∈ s.path c none, s.scriptOf (s.refer place) ∈ s.scripts := by
  have hown : s.scriptOf (s.refer (.card s.current)) ∈ s.scripts := by
    rw [scriptOf_refer, entity?, hcard]
    exact List.mem_append_right _ (List.mem_map.mpr ⟨c, List.mem_of_getElem? hcard, rfl⟩)
  have hstack : s.scriptOf (s.refer .stack) ∈ s.scripts := by
    rw [scriptOf_refer]
    exact List.mem_append_left _ List.mem_cons_self
  have hbackground : ∀ r, s.backgroundOf c = some r →
      s.scriptOf (s.refer (.background r.1)) ∈ s.scripts := by
    intro r hr
    have hb := backgroundOf_some hr
    rw [scriptOf_refer, entity?, hb]
    refine List.mem_append_left _ (List.mem_cons_of_mem _ ?_)
    exact List.mem_map.mpr ⟨r.2, List.mem_of_getElem? hb, rfl⟩
  intro place hplace
  rcases List.mem_append.mp hplace with hplace | hplace
  · rcases List.mem_append.mp hplace with hplace | hplace
    · rw [List.mem_singleton.mp hplace]
      exact hown
    · obtain ⟨r, hr, rfl⟩ := Option.map_eq_some_iff.mp (Option.mem_toList.mp hplace)
      exact hbackground r hr
  · rw [List.mem_singleton.mp hplace]
    exact hstack

theorem SameCards.of_contents {s s' : Scene} {position : Nat}
    (h : s'.contents = (s.stack, s.backgrounds, s.cards, position)) : s.SameCards s' :=
  have ⟨hstack, hbackgrounds, hcards, _⟩ := Scene.of_contents h
  ⟨hstack, hbackgrounds, hcards⟩

end Scene

namespace Engine

variable {e e' : Engine}

theorem offerWith_ignored {event : Text} (hquiet : e.IsQuiet event)
    (hcurrent : e.scene.HasCurrent) :
    offerWith dispatch event none e = .finished (.ok false) e := by
  have hcard := List.getElem?_eq_getElem hcurrent
  rw [offerWith_eq hcard]
  refine offerTo_ignored none fun r hr => ?_
  obtain ⟨place, hplace, rfl⟩ := List.mem_map.mp hr
  exact hquiet _ (Scene.scriptOf_path hcard place hplace)

/-! ### What a find leaves as it is -/

/-- Two engines have the same cards, settings and presenter. -/
structure Alike (e e' : Engine) : Prop where
  cards : e.scene.SameCards e'.scene
  settings : e'.settings = e.settings
  failure : e'.presenter.failure = e.presenter.failure

theorem Alike.refl (e : Engine) : Alike e e := ⟨⟨rfl, rfl, rfl⟩, rfl, rfl⟩

theorem Alike.trans {e'' : Engine} (h : Alike e e') (h' : Alike e' e'') : Alike e e'' where
  cards := ⟨h'.cards.stack.trans h.cards.stack, h'.cards.backgrounds.trans h.cards.backgrounds,
    h'.cards.cards.trans h.cards.cards⟩
  settings := h'.settings.trans h.settings
  failure := h'.failure.trans h.failure

theorem Steady.alike (h : Steady e e') : Alike e e' :=
  ⟨.of_contents h.contents, h.settings, h.failure⟩

theorem Alike.isQuiet (h : Alike e e') {event : Text} (hquiet : e.IsQuiet event) :
    e'.IsQuiet event := by
  unfold IsQuiet Ignores Scene.scripts
  rw [h.cards.stack, h.cards.backgrounds, h.cards.cards, h.settings]
  exact hquiet

/-- Nobody takes notice of going from one card to another. -/
theorem goTo_answered {k : Nat} (hclose : e.IsQuiet "closeCard") (hopen : e.IsQuiet "openCard")
    (hcurrent : e.scene.HasCurrent) (hk : k < e.scene.cards.length) (hne : k ≠ e.scene.current) :
    Answered { e with scene := e.scene.moveTo k false } ()
      (goToWith dispatch (.int (k + 1)) e) := by
  let e₁ : Engine := { e with scene := e.scene.moveTo k false }
  have hmoved : Alike e e₁ ∧ e₁.scene.HasCurrent := by
    have hcontents := e.scene.moveTo_contents k false
    exact ⟨⟨.of_contents hcontents, rfl, rfl⟩, Scene.hasCurrent_moveTo hk false⟩
  have hresolve : e.scene.resolve (.int (k + 1)) = .ok k := by
    rw [Scene.resolve, Scene.numbered, if_neg (by omega)]
    exact congrArg Except.ok (by omega)
  have harrive : Answered e₁ () ((do
      notifyChanged
      let _ ← offerWith dispatch "openCard" none : Action Engine Unit) e₁) := by
    refine (notifyChanged_answered hmoved.2).bind fun e' hsteady => ?_
    have hquiet := (hmoved.1.trans hsteady.alike).isQuiet hopen
    show Answered e' () ((offerWith dispatch "openCard" none e').bind fun _ => pure ())
    rw [offerWith_ignored hquiet (hsteady.hasCurrent hmoved.2)]
    exact .pure (.refl e')
  rw [goToWith_leaves hresolve hne, offerWith_ignored hclose hcurrent]
  show Answered e₁ () ((moveTo k false e).bind _)
  rw [moveTo_card hk]
  exact harrive

/-! ### One find -/

/-- A find that starts from an engine has come to a spot: it stands there, on the card of the
spot, and unless the presenter has failed, the content is in `it` and the field was made to
stand out. -/
structure Reports (term : Text) (x : Spot) (e : Engine) (r : Except Fault Bool × Engine) :
    Prop where
  alike : Alike e r.2
  gives : e.Gives true r.1
  cursor : r.2.cursor = x.cursor term
  current : r.2.scene.current = x.card
  shown : r.1 = .ok true → x.part.content? = some r.2.registers.it ∧
    r.2.trace.head? = some (.highlight x.part.id)

/-- A find that starts from an engine has come to nothing: the cursor is cleared and the user
stays where he is, and unless the presenter has failed, the outcome says so. -/
structure Misses (e : Engine) (r : Except Fault Bool × Engine) : Prop where
  alike : Alike e r.2
  gives : e.Gives false r.1
  cursor : r.2.cursor = {}
  current : r.2.scene.current = e.scene.current

theorem highlight_traced {id : Text} (h : highlight id e = .finished (.ok ()) e') :
    e'.trace.head? = some (.highlight id) := by
  have hcall : highlight id e = (call (.highlight id) e).bind fun _ =>
      onConsole fun c => { c with highlighted := some id } := rfl
  rw [hcall, call_eq] at h
  cases hfailure : e.presenter.failure (.highlight id :: e.trace) with
  | some f =>
      rw [hfailure] at h
      exact nomatch h
  | none =>
      rw [hfailure] at h
      injection h with _ hstate
      rw [← hstate]
      rfl

variable {term : Text} {field : Option Text}

/-- What a find does on the card of its hit. -/
def arrive (hit : Hit) : Action Engine Unit := do
  setIt (hit.content (← get).scene)
  highlight hit.part.id

/-- What a find does when nothing is ahead. -/
def giveUp (term : Text) : Action Engine Bool := do
  beep
  alert "Find" (("Could not find \"" : Text) ++ Text.lower term ++ "\" in any fields.")
  return false

/-- A find that is on the card of its hit reports it. -/
theorem reports_arrived {hit : Hit} {content : Text} (halike : Alike e e')
    (hcursor : e'.cursor = hit.spot.cursor term) (hcurrent : e'.scene.current = hit.card)
    (hcontent : hit.part.content? = some content) (hheld : hit.content e'.scene = content) :
    Reports term hit.spot e ((arrive hit e').bind fun _ => pure true).complete := by
  let e₁ : Engine := { e' with registers := { e'.registers with it := content } }
  have harrive : arrive hit e' = highlight hit.part.id e₁ := by
    show highlight hit.part.id { e' with
      registers := { e'.registers with it := hit.content e'.scene } } = _
    rw [hheld]
  obtain ⟨outcome, e₂, hrun, hsteady, hgives⟩ := highlight_answered hit.part.id e₁
  have hposition : e₂.scene.current = hit.card := hsteady.current.trans hcurrent
  have halike₁ : Alike e e₁ := ⟨halike.cards, halike.settings, halike.failure⟩
  have halike' : Alike e e₂ := halike₁.trans hsteady.alike
  rw [harrive, hrun]
  rcases hgives with rfl | ⟨f, ⟨events, hf⟩, rfl⟩
  · refine ⟨halike', .inl rfl, hsteady.cursor.trans hcursor, hposition,
      fun _ => ⟨?_, highlight_traced hrun⟩⟩
    show hit.part.content? = some e₂.registers.it
    rw [hsteady.registers]
    exact hcontent
  · refine ⟨halike', .inr ⟨f, ⟨events, ?_⟩, rfl⟩, hsteady.cursor.trans hcursor, hposition,
      fun hok => nomatch hok⟩
    rw [← halike.failure]
    exact hf

/-- What a find does with the outcome of its search. -/
def conclude (term : Text) (c : Cursor) : Option Hit → Action Engine Bool
  | some hit => do
    showHit dispatch c hit
    return true
  | none => do
    modify fun e => { e with cursor := {} }
    giveUp term

/-- The cursor that a find for a term starts from. -/
def cursorFor (e : Engine) (term : Text) : Cursor := e.cursor.resume e.scene (Text.lower term)

theorem cursorFor_term (e : Engine) (term : Text) : (e.cursorFor term).term = Text.lower term := by
  unfold cursorFor Cursor.resume
  by_cases hterm : e.cursor.term = Text.lower term
  · rw [if_pos hterm]
    exact hterm
  · rw [if_neg hterm]

theorem find_eq (hterm : term ≠ []) {outcome : Option Hit} (hnext : (e.cursorFor term).next?
      e.scene (field.filter fun name => !name.isEmpty) = .ok outcome) :
    find term field e =
      conclude term (e.cursorFor term) outcome { e with cursor := e.cursorFor term } := by
  have hlower : ¬(Text.lower term).isEmpty = true := by
    rw [List.isEmpty_iff]
    exact Text.lower_ne_nil hterm
  show (if (Text.lower term).isEmpty then _ else _ : Action Engine Bool) e = _
  rw [if_neg hlower]
  show (liftM ((e.cursorFor term).next? e.scene _) >>= conclude term (e.cursorFor term)
    : Action Engine Bool) { e with cursor := e.cursorFor term } = _
  rw [hnext]
  rfl

/-- A find that has a spot ahead reports it. -/
theorem find_reports {x : Spot} (hterm : term ≠ [])
    (hclose : e.IsQuiet "closeCard") (hopen : e.IsQuiet "openCard")
    (hcurrent : e.scene.HasCurrent)
    (hx : (e.scene.ahead term field (e.cursorFor term)).head? = some x) :
    Reports term x e (find term field e).complete := by
  have hc := e.cursorFor_term term
  obtain ⟨hit?, hnext, hspot, hrefers⟩ := e.scene.next?_ok field _ hc
  rw [hx] at hspot
  obtain ⟨hit, rfl, rfl⟩ := Option.map_eq_some_iff.mp hspot
  have hhit := hrefers hit rfl
  obtain ⟨hlt, content, hcontent, -⟩ := Scene.mem_ahead (List.mem_of_mem_head? hx)
  have hcard : hit.card < e.scene.cards.length := hlt
  -- the find up to the card of the hit
  let e₁ : Engine := { e with cursor :=
    { e.cursorFor term with card := some hit.card, object := some hit.object } }
  have hfind : find term field e = ((if hit.card ≠ e.scene.current then do
      goToWith dispatch (.int (hit.card + 1))
      arrive hit else arrive hit : Action Engine Unit) e₁).bind fun _ => pure true := by
    rw [find_eq hterm hnext]
    rfl
  have hcursor : e₁.cursor = hit.spot.cursor term := by
    rw [Spot.cursor, ← hc]
    rfl
  have hstart : Alike e e₁ := ⟨⟨rfl, rfl, rfl⟩, rfl, rfl⟩
  rw [hfind]
  by_cases hmove : hit.card ≠ e.scene.current
  · rw [if_pos hmove]
    obtain ⟨outcome, e₂, hrun, hsteady, hgives⟩ := goTo_answered (hstart.isQuiet hclose)
      (hstart.isQuiet hopen) hcurrent hcard hmove
    have hcontents := hsteady.contents.trans (e.scene.moveTo_contents hit.card false)
    have hposition : e₂.scene.current = hit.card := (Scene.of_contents hcontents).2.2.2
    have halike : Alike e e₂ := ⟨.of_contents hcontents, hsteady.settings, hsteady.failure⟩
    show Reports term hit.spot e (((goToWith dispatch (.int (hit.card + 1)) e₁).bind
      fun _ => arrive hit).bind fun _ => pure true).complete
    rw [hrun]
    rcases hgives with rfl | ⟨f, hf, rfl⟩
    · refine reports_arrived halike (hsteady.cursor.trans hcursor) hposition hcontent ?_
      have hedits : e₂.scene.edits = .moved hit.card false :: e.scene.edits :=
        hsteady.edits.trans (e.scene.moveTo_edits hit.card false)
      exact halike.cards.content_eq hhit (.inr ⟨_, _, hedits⟩) hcontent
    · exact ⟨halike, .inr ⟨f, hf, rfl⟩, hsteady.cursor.trans hcursor, hposition,
        fun hok => nomatch hok⟩
  · rw [if_neg hmove]
    refine reports_arrived hstart hcursor (not_not.mp hmove).symm hcontent ?_
    exact hstart.cards.content_eq hhit (.inl rfl) hcontent

/-- A find that has nothing ahead misses. -/
theorem find_misses (hterm : term ≠ [])
    (hnone : e.scene.ahead term field (e.cursorFor term) = []) :
    Misses e (find term field e).complete := by
  obtain ⟨hit?, hnext, hspot, -⟩ := e.scene.next?_ok field _ (e.cursorFor_term term)
  rw [hnone] at hspot
  obtain rfl := Option.map_eq_none_iff.mp hspot
  let e₁ : Engine := { e with cursor := {} }
  have hfind : find term field e = giveUp term e₁ := by
    rw [find_eq hterm hnext]
    rfl
  have hgiveUp : Settled e₁ false (giveUp term e₁) := by
    refine (beep_answered e₁).settled.bind fun e' _ => ?_
    refine (alert_settled _ _ e').bind fun e'' _ => ?_
    exact ⟨.refl e'', .inl rfl⟩
  obtain ⟨hsteady, hgives⟩ := hgiveUp
  have hstart : Alike e e₁ := ⟨⟨rfl, rfl, rfl⟩, rfl, rfl⟩
  rw [hfind]
  exact ⟨hstart.trans hsteady.alike, hgives, hsteady.cursor, hsteady.current⟩

/-! ### One find after another -/

/-- With a cleared cursor all spots are ahead. -/
theorem ahead_cleared (hterm : term ≠ []) (hcursor : e.cursor = {}) :
    e.scene.ahead term field (e.cursorFor term) = e.scene.spots term field := by
  have hnew : e.cursorFor term =
      { term := Text.lower term, card := some e.scene.current, object := none } := by
    unfold cursorFor Cursor.resume
    rw [hcursor, if_neg (Text.lower_ne_nil hterm).symm]
  rw [hnew]
  exact Scene.ahead_start _

/-- After a report what is ahead is what the spot has ahead. -/
theorem Reports.ahead {x : Spot} {r : Except Fault Bool × Engine} (h : Reports term x e r) :
    r.2.scene.ahead term field (r.2.cursorFor term) = e.scene.ahead term field (x.cursor term) := by
  have hsame : r.2.cursorFor term = x.cursor term := by
    unfold cursorFor Cursor.resume
    rw [h.cursor]
    exact if_pos rfl
  rw [hsame]
  exact h.alike.cards.ahead_eq _

/-- The engine after a number of finds for a term, each left to itself. -/
def afterFinds (term : Text) (field : Option Text) (e : Engine) : Nat → Engine
  | 0 => e
  | n + 1 => (find term field (afterFinds term field e n)).complete.2

variable (hterm : term ≠ []) (hclose : e.IsQuiet "closeCard") (hopen : e.IsQuiet "openCard")
  (hcursor : e.cursor = {}) (hcurrent : e.scene.HasCurrent)

include hterm hclose hopen hcursor hcurrent

/-- As long as there are spots to come, and for ever if they lie on several cards, finds have
them ahead in turn. -/
theorem afterFinds_ahead (field : Option Text) (n : Nat)
    (hn : n < (e.scene.spots term field).length ∨ ¬OnOneCard (e.scene.spots term field)) :
    let e' := afterFinds term field e n
    Alike e e' ∧ e'.scene.HasCurrent ∧ ∃ x,
      (e.scene.spots term field)[n % (e.scene.spots term field).length]? = some x ∧
        (e'.scene.ahead term field (e'.cursorFor term)).head? = some x := by
  have hpos : 0 < (e.scene.spots term field).length := by
    rcases hn with hlt | hspread
    · exact Nat.zero_lt_of_lt hlt
    · refine List.length_pos_iff.mpr fun hnone => hspread ?_
      rw [hnone]
      exact fun x hx => nomatch hx
  have hspot : ∀ k, ∃ x,
      (e.scene.spots term field)[k % (e.scene.spots term field).length]? = some x :=
    fun k => ⟨_, List.getElem?_eq_getElem (Nat.mod_lt k hpos)⟩
  induction n with
  | zero =>
      obtain ⟨x, hx⟩ := hspot 0
      refine ⟨.refl e, hcurrent, x, hx, ?_⟩
      show (e.scene.ahead term field (e.cursorFor term)).head? = some x
      rw [ahead_cleared hterm hcursor, List.head?_eq_getElem?, ← hx, Nat.zero_mod]
  | succ n ih =>
      obtain ⟨halike, hcurrent', x, hx, hahead⟩ := ih (hn.imp_left fun hlt => by omega)
      have hreports := find_reports hterm (halike.isQuiet hclose) (halike.isQuiet hopen)
        hcurrent' hahead
      have halike' : Alike e (afterFinds term field e (n + 1)) := halike.trans hreports.alike
      obtain ⟨y, hy⟩ := hspot (n + 1)
      refine ⟨halike', ?_, y, hy, ?_⟩
      · rw [Scene.HasCurrent, halike'.cards.cards, ← halike.cards.cards]
        show (find term field (afterFinds term field e n)).complete.2.scene.current < _
        rw [hreports.current]
        exact (Scene.mem_ahead (List.mem_of_mem_head? hahead)).1
      · show ((find term field (afterFinds term field e n)).complete.2.scene.ahead term field
          ((find term field (afterFinds term field e n)).complete.2.cursorFor term)).head? = some y
        rw [hreports.ahead, halike.cards.ahead_eq, Scene.ahead_head? hx, ← hy, Nat.mod_add_mod]
        rcases hn with hlt | hspread
        · rw [Nat.mod_eq_of_lt (by omega)]
          exact .inl hlt
        · exact .inr hspread

/-- **Finds for one term enumerate its spots.**  From a cleared cursor as many finds as there
are spots report each of them, in order around the cards from the current one.  When the
spots lie on several cards the finds after that report them in the same order again, for
ever; when they lie on one card, or there are none, the next find misses.  No script of the
stack, a background or a card may have a handler for leaving or entering a card. -/
theorem find_enumerates (field : Option Text) :
    let spots := e.scene.spots term field
    (∀ n, n < spots.length ∨ ¬OnOneCard spots → ∃ x, spots[n % spots.length]? = some x ∧
      Reports term x (afterFinds term field e n)
        (find term field (afterFinds term field e n)).complete) ∧
    (OnOneCard spots → Misses (afterFinds term field e spots.length)
      (find term field (afterFinds term field e spots.length)).complete) := by
  intro spots
  have hahead := afterFinds_ahead hterm hclose hopen hcursor hcurrent field
  have hreports : ∀ n, n < spots.length ∨ ¬OnOneCard spots →
      ∃ x, spots[n % spots.length]? = some x ∧
        Reports term x (afterFinds term field e n)
          (find term field (afterFinds term field e n)).complete := by
    intro n hn
    obtain ⟨halike, hcurrent', x, hx, hnext⟩ := hahead n hn
    exact ⟨x, hx, find_reports hterm (halike.isQuiet hclose) (halike.isQuiet hopen) hcurrent' hnext⟩
  refine ⟨hreports, fun hone => find_misses hterm ?_⟩
  cases hlength : spots.length with
  | zero =>
      show e.scene.ahead term field (e.cursorFor term) = []
      rw [ahead_cleared hterm hcursor]
      exact List.length_eq_zero_iff.mp hlength
  | succ n =>
      have hn : n < spots.length := by omega
      obtain ⟨x, hx, hreport⟩ := hreports n (.inl hn)
      obtain ⟨halike, -⟩ := hahead n (.inl hn)
      show (find term field (afterFinds term field e n)).complete.2.scene.ahead term field
        ((find term field (afterFinds term field e n)).complete.2.cursorFor term) = []
      rw [Nat.mod_eq_of_lt hn] at hx
      rw [hreport.ahead, halike.cards.ahead_eq]
      exact Scene.ahead_last hx hlength.symm hone

end Engine

/-- A silent engine on the second of three cards, whose background has a field that holds a
word; the second card has another one, and a script that takes notice of clicks only. -/
def Engine.searching : Engine :=
  let note (id content : Text) : Part :=
    { id, name := "Note", rect := ⟨.float 0, .float 0, .float 200, .float 100⟩
      visible := true, script := [], layer := "card", rotation := .float 0
      body := .field content [] [] [] (.float 16) true false }
  let below : Background :=
    { id := "bg", name := "Below", script := [], backgroundColor := []
      parts := [note "f1" "One fish"] }
  let second : Card :=
    { Card.usual "b" "B" with
      script := "on mouseUp\nbeep\nend mouseUp", parts := [note "f2" "Two", note "f3" "Red FISH"] }
  .new (.assemble (.usual "s") [below] [.usual "a" "A", second, .usual "c" "C"] 1 0)
    { hostMarker := some "-- @lua", repeatLimit := .null, ticksPerSecond := .null
      serializeEvents := .ok true, idleInterval := .ok .null, isServed := .ok false }
    { console := none, replies := [], failure := fun _ => none }
    (.still .bare)

/-- The field on the background is found on every card, and the sixth find for the word comes
round to the second spot. -/
theorem find_enumerates_around :
    let e := Engine.searching
    let spots := e.scene.spots "Fish" none
    let asked := Engine.afterFinds "Fish" none e 5
    ("Fish" : Text) ≠ [] ∧ e.IsQuiet "closeCard" ∧ e.IsQuiet "openCard" ∧ e.cursor = {} ∧
      e.scene.HasCurrent ∧
      spots.map (fun x => (x.card, x.object)) = [(1, 0), (1, 2), (2, 0), (0, 0)] ∧
      ¬Find.OnOneCard spots ∧
      ∃ x, spots[1]? = some x ∧ Engine.Reports "Fish" x asked (asked.find "Fish" none).complete := by
  intro e spots asked
  have hterm : ("Fish" : Text) ≠ [] := List.cons_ne_nil _ _
  have hclose : e.IsQuiet "closeCard" := by decide +kernel
  have hopen : e.IsQuiet "openCard" := by decide +kernel
  have hcursor : e.cursor = {} := rfl
  have hcurrent : e.scene.HasCurrent := by decide +kernel
  have hspread : ¬Find.OnOneCard spots := by decide +kernel
  have hlength : spots.length = 4 := by decide +kernel
  obtain ⟨x, hx, hreports⟩ :=
    (Engine.find_enumerates hterm hclose hopen hcursor hcurrent none).1 5 (.inr hspread)
  have hx' : spots[5 % spots.length]? = some x := hx
  rw [hlength] at hx'
  exact ⟨hterm, hclose, hopen, hcursor, hcurrent, by decide +kernel, hspread, x, hx', hreports⟩

end CardTalk
