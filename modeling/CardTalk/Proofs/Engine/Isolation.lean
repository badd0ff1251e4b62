/-
The handlers of a script do not get into each other's way.

An event runs the first handler for it, and the rest of the script is as if it were not there:
which handlers come before and after, and how their names begin, makes no difference to a
dispatch.  That is because a dispatch of a script that is not in host mode depends on the
script only through the handler that is found in it (`dispatchAt_congr`).
-/
import CardTalk.Proofs.Engine.Reporting
import CardTalk.Proofs.Find.Enumeration
import CardTalk.Proofs.Script.Handler
import CardTalk.Proofs.Text.Lines

namespace CardTalk

/-! ### Blank scripts -/

namespace Script

theorem mem_of_mem_beforeComment {line : Text} {c : Char} (h : c ∈ beforeComment line) :
    c ∈ line := by
  have hgo : ∀ current previous, c ∈ beforeComment.go current previous line → c ∈ line := by
    clear h
    induction line with
    | nil => exact fun _ _ h => h
    | cons d rest ih =>
        intro current previous h
        rw [beforeComment.go] at h
        split at h
        · exact nomatch h
        · rcases List.mem_cons.mp h with rfl | h
          · exact List.mem_cons_self
          · exact List.mem_cons_of_mem _ (ih _ _ h)
  exact hgo none none h

/-- A blank script has no statements. -/
theorem statements_of_allBlank {script : Text} (h : Text.allBlank script) :
    statements script = [] := by
  refine List.filterMap_eq_nil_iff.mpr fun line hline => ?_
  have hblank : ∀ c ∈ beforeComment line, Text.isBlank c := fun c hc =>
    List.all_eq_true.mp h c (Text.mem_of_mem_lines hline c (mem_of_mem_beforeComment hc))
  have htrim : Text.trim (beforeComment line) = [] := by
    rw [Text.trim, Text.trimStart, List.dropWhile_eq_nil_iff.mpr hblank]
    rfl
  rw [statement?, htrim]
  rfl

end Script

/-! ### Dispatches -/

namespace Engine

variable {e : Engine} {event script script' : Text}

/-- What a dispatch of a script that is not in host mode does is decided by its statements. -/
theorem dispatchAt_eq (depth : Nat) (event : Text) (origin : Option Text)
    (hhost : ¬e.settings.hostMarker.any (Script.isHostMode script)) :
    dispatchAt (depth + 1) event script origin e =
      (runHandler (dispatchAt depth) (Script.statements script) event origin e).attempt.bind
        (settle event origin) := by
  by_cases hblank : Text.allBlank script = true
  · rw [dispatchAt_ignored depth origin (.inl hblank), Script.statements_of_allBlank hblank]
    rfl
  · have hdispatch := dispatchWith_eq (dispatchAt depth) event script origin e
    rw [if_neg hblank] at hdispatch
    have hrun : runScript (dispatchAt depth) script event origin e =
        runHandler (dispatchAt depth) (Script.statements script) event origin e := by
      show (if e.settings.hostMarker.any (Script.isHostMode script) then _ else
        runHandler (dispatchAt depth) (Script.statements script) event origin
          : Action Engine Bool) e = _
      rw [if_neg hhost]
    rw [← hrun]
    exact hdispatch

/-- Scripts with the same handler for an event do the same when they are told of it. -/
theorem dispatchAt_congr (depth : Nat) (origin : Option Text)
    (hhost : ¬e.settings.hostMarker.any (Script.isHostMode script))
    (hhost' : ¬e.settings.hostMarker.any (Script.isHostMode script'))
    (h : Script.handler? (Script.statements script) event =
      Script.handler? (Script.statements script') event) :
    dispatchAt (depth + 1) event script origin e =
      dispatchAt (depth + 1) event script' origin e := by
  rw [dispatchAt_eq depth event origin hhost, dispatchAt_eq depth event origin hhost', runHandler,
    runHandler, h]

open Script Written in
/-- **The handlers of a script are isolated from each other.**  In a script that is a list of
handlers, none of which has a line in its body that begins like a frame of a handler for the
event, the handler found for an event is the first one with its name, case aside, and what is
found of it is its body; there is none to be found only if no handler has that name.  So a
dispatch of the script does just what a dispatch of that one handler alone does, and nothing if
there is none. -/
theorem dispatch_isolated (depth : Nat) {handlers : List Written} {event : Text}
    (hevent : IsName event) (horder : InOrder handlers) (hapart : Apart event handlers) :
    (∀ before h after, handlers = before ++ h :: after → Text.Alike h.name event →
      (∀ h' ∈ before, ¬Text.Alike h'.name event) →
        let start := (before.flatMap lines).length + 1
        handlerSpan? (handlers.flatMap lines) event = some (start, start + h.body.length) ∧
        ((handlers.flatMap lines).drop start).take h.body.length = h.body ∧
        ∀ script alone origin e, Script.statements script = handlers.flatMap lines →
          Script.statements alone = h.lines →
          ¬e.settings.hostMarker.any (isHostMode script) →
          ¬e.settings.hostMarker.any (isHostMode alone) →
            dispatchAt (depth + 1) event script origin e =
              dispatchAt (depth + 1) event alone origin e) ∧
    (handlerSpan? (handlers.flatMap lines) event = none ↔
      ∀ h ∈ handlers, ¬Text.Alike h.name event) ∧
    ((∀ h ∈ handlers, ¬Text.Alike h.name event) →
      ∀ script origin e, Script.statements script = handlers.flatMap lines →
        ¬e.settings.hostMarker.any (isHostMode script) →
          dispatchAt (depth + 1) event script origin e = .finished (.ok false) e) := by
  refine ⟨fun before h after hsplit hname hbefore => ⟨?_, ?_, ?_⟩, ⟨fun hnone => ?_, ?_⟩, ?_⟩
  · exact handlerSpan?_first hevent hapart horder hsplit hname hbefore
  · rw [hsplit, drop_lines, List.take_left]
  · intro script alone origin e hscript halone hhost hhost'
    refine dispatchAt_congr depth origin hhost hhost' ?_
    have halone' : Script.statements alone = [h].flatMap lines := by
      rw [halone, List.flatMap_singleton]
    have hbody := hapart h (hsplit ▸ List.mem_append_right _ List.mem_cons_self)
    have hone : Apart event [h] := fun h' hh' => List.mem_singleton.mp hh' ▸ hbody
    rw [hscript, halone', handler?_first hevent hapart horder hsplit hname hbefore,
      handler?_first hevent hone (inOrder_singleton h) (List.nil_append [h]).symm hname nofun]
  · rcases exists_first handlers event with hnames | ⟨before, h, after, hsplit, hname, hbefore⟩
    · exact hnames
    · have hspan := handlerSpan?_first hevent hapart horder hsplit hname hbefore
      exact nomatch hnone.symm.trans hspan
  · exact handlerSpan?_none hevent hapart
  · intro hnames script origin e hscript hhost
    refine dispatchAt_ignored depth origin (.inr ⟨Bool.eq_false_iff.mpr hhost, ?_⟩)
    rw [handler?, hscript, handlerSpan?_none hevent hapart hnames]
    rfl

open Script in
/-- A handler for an event whose name goes on behind that of another. -/
def pressing : Written where
  name := "mouseUpDown"
  opening := "on mouseUpDown"
  body := ["put \"pressed\" into it"]
  closing := some "end mouseUpDown"
  isName := by decide
  opens := ⟨"on", " ", "mouseUpDown", rfl, by decide, by decide, List.all_eq_true.mp (by decide),
    by decide, by decide⟩
  closes := by
    rintro _ ⟨⟩
    exact ⟨"end", " ", "mouseUpDown", rfl, by decide, by decide, List.all_eq_true.mp (by decide),
      by decide, by decide⟩

open Script in
/-- A handler that is spelled in other cases than its event, possibly without an end. -/
def releasing (value : Text) (closed : Bool) : Written where
  name := "MouseUp"
  opening := "ON MouseUp"
  body := [("put " : Text) ++ value ++ " into it"]
  closing := if closed then some "end  mouseup" else none
  isName := by decide
  opens := ⟨"ON", " ", "MouseUp", rfl, by decide, by decide, List.all_eq_true.mp (by decide),
    by decide, by decide⟩
  closes := by
    cases closed
    · exact nofun
    · rintro _ ⟨⟩
      exact ⟨"end", "  ", "mouseup", rfl, by decide, by decide, List.all_eq_true.mp (by decide),
        by decide, by decide⟩

open Script in
/-- The handler in the middle is run as if it were alone: the one before it is for a longer event,
and the one after it, which is never ended, comes too late. -/
theorem dispatch_isolated_middle :
    let handlers := [pressing, releasing "one" true, releasing "two" false]
    let script : Text := "on mouseUpDown\nput \"pressed\" into it\nend mouseUpDown\n\nON MouseUp\n" ++
      "put one into it\nend  mouseup\nON MouseUp\nput two into it"
    let alone : Text := "ON MouseUp\nput one into it\nend  mouseup"
    handlerSpan? (handlers.flatMap Written.lines) "mouseUp" = some (4, 5) ∧
      dispatchAt 200 "mouseUp" script none unheard = dispatchAt 200 "mouseUp" alone none unheard ∧
      (dispatchAt 200 "mouseUp" script none unheard).complete.2.registers.it = "one" := by
  intro handlers script alone
  have horder : Written.InOrder handlers := by decide
  have hapart : Written.Apart "mouseUp" handlers := by
    intro h hh statement hstatement
    rw [← opensHandler_iff, ← endsHandler_iff]
    revert h statement
    decide +kernel
  have hfirst := (dispatch_isolated 199 (by decide) horder hapart).1 [pressing]
    (releasing "one" true) [releasing "two" false] rfl (by decide) (by decide)
  refine ⟨hfirst.1, hfirst.2.2 script alone none unheard ?_ ?_ ?_ ?_, ?_⟩
  all_goals decide +kernel

end Engine

end CardTalk
