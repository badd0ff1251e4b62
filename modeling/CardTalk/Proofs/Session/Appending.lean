/-
Nothing that handlers put behind the text in a field at the same time is lost.

Any number of events are posted whose objects have handlers that only put literals behind the
text in one field, and wait.  Whoever has a turn when, the field holds what it held and then
literals of all the handlers: those of each handler in their order, each of them once, all of
them as soon as the handler has ended (`session_appends`).  The order in which they mix is the
order of the turns; what has been added is written down with the one who has added it, and
`Pool.Appended` says that what he has added and what he has still to add are his literals.  A
turn moves the beginning of what he has still to add behind the text (`Run.Adds`) and leaves
everybody else as he was.

The objects are not asked to differ, nor the literals, and events of one source may or may not
wait for each other.
-/
import CardTalk.Proofs.Engine.Appending
import CardTalk.Proofs.Session.Saving
import CardTalk.Proofs.Session.Serialization
import CardTalk.Host.Line.Runtime

namespace CardTalk

/-! ### Who has added what -/

/-- What somebody has added, of all that has been added. -/
def addedBy (i : Nat) (log : List (Nat × Text)) : List Text :=
  (log.filter fun r => r.1 == i).map Prod.snd

@[simp] theorem addedBy_nil (i : Nat) : addedBy i [] = [] := rfl

@[simp] theorem addedBy_append (i : Nat) (log log' : List (Nat × Text)) :
    addedBy i (log ++ log') = addedBy i log ++ addedBy i log' := by
  rw [addedBy, List.filter_append, List.map_append]
  rfl

theorem addedBy_own (i : Nat) (added : List Text) : addedBy i (added.map (i, ·)) = added := by
  simp [addedBy, List.filter_map, Function.comp_def]

theorem addedBy_other {i j : Nat} (hj : j ≠ i) (added : List Text) :
    addedBy j (added.map (i, ·)) = [] := by
  simp [addedBy, List.filter_map, Function.comp_def, hj.symm]

theorem addedBy_stranger {n i : Nat} {log : List (Nat × Text)} (h : ∀ r ∈ log, r.1 < n)
    (hi : n ≤ i) : addedBy i log = [] := by
  have hnone : ∀ r ∈ log, ¬(r.1 == i) = true := fun r hr heq =>
    Nat.not_lt.mpr hi (beq_iff_eq.mp heq ▸ h r hr)
  rw [addedBy, List.filter_eq_nil_iff.mpr hnone, List.map_nil]

/-! ### Pools of handlers that append -/

namespace Pool

section

variable (e₀ : Engine) (place : Place) (faultless : Prop)

/-- A task that is this far adds what is left and is then done, from whatever the text in the
field is when it goes on. -/
def Task.Owes (t : Task Engine Bool) (left : List Text) : Prop :=
  match t.phase with
  | .asleep _ wake => ∀ text e, Engine.Filled e₀ place text e →
    (wake e).Adds (Engine.Filled e₀ place) (Engine.Spoilt e₀ faultless) Served text left
  | .done outcome => Served outcome left
  | .fresh | .waiting | .called => ∀ text e, Engine.Filled e₀ place text e →
    (t.start e).Adds (Engine.Filled e₀ place) (Engine.Spoilt e₀ faultless) Served text left

/-- The tasks of a pool have added to the text in a field what the log says, each the beginning of
its own literals, and owe the rest. -/
structure Appended (initial : Text) (literals : List (List Text)) (log : List (Nat × Text))
    (p : Pool Engine Bool) : Prop where
  filled : Engine.Filled e₀ place (initial ++ (log.map Prod.snd).flatten) p.state
  length : p.tasks.length = literals.length
  known : ∀ r ∈ log, r.1 < literals.length
  owed : ∀ {i t}, p.tasks[i]? = some t → ∃ left,
    literals[i]? = some (addedBy i log ++ left) ∧ t.Owes e₀ place faultless left

end

variable {e₀ : Engine} {place : Place} {faultless : Prop} {initial : Text}
  {literals : List (List Text)} {log : List (Nat × Text)} {p p' : Pool Engine Bool}

theorem Task.Stays.owes {t t' : Task Engine Bool} (h : t.Stays t') {left : List Text}
    (ht : t.Owes e₀ place faultless left) : t'.Owes e₀ place faultless left := by
  cases h with
  | same => exact ht
  | called hwaiting =>
      unfold Task.Owes at ht
      rw [hwaiting] at ht
      exact ht

namespace Appended

theorem empty (hinitial : e₀.scene.textAt? place = some initial) :
    Appended e₀ place faultless initial [] [] (Pool.empty e₀) where
  filled := by
    rw [List.map_nil, List.flatten_nil, List.append_nil]
    exact .start hinitial
  length := rfl
  known := by simp
  owed h := by simp [Pool.empty] at h

/-- Somebody else begins who has literals to add. -/
theorem post (h : p.Appended e₀ place faultless initial literals log) (source : Option Text)
    {start : Action Engine Bool} {own : List Text}
    (hstart : ∀ t e, Engine.Filled e₀ place t e → (start e).Adds (Engine.Filled e₀ place)
      (Engine.Spoilt e₀ faultless) Served t own) :
    (p.post source start).Appended e₀ place faultless initial (literals ++ [own]) log where
  filled := h.filled
  length := by simp [Pool.post, h.length]
  known r hr := by
    rw [List.length_append]
    exact Nat.lt_add_right _ (h.known r hr)
  owed {i t} ht := by
    rw [Pool.post] at ht
    by_cases hi : i < p.tasks.length
    · rw [List.getElem?_append_left hi] at ht
      obtain ⟨left, hleft, howes⟩ := h.owed ht
      rw [List.getElem?_append_left (h.length ▸ hi)]
      exact ⟨left, hleft, howes⟩
    · obtain ⟨hlast, rfl⟩ : i = p.tasks.length ∧ ⟨source, start, .fresh⟩ = t := by
        rw [List.getElem?_append_right (Nat.le_of_not_lt hi), List.getElem?_singleton] at ht
        split at ht
        · exact ⟨by omega, Option.some.inj ht⟩
        · cases ht
      rw [hlast, h.length, List.getElem?_concat_length]
      exact ⟨own, by rw [addedBy_stranger h.known (Nat.le_refl _), List.nil_append], hstart⟩

/-- Somebody has had a turn, has added something and owes the rest. -/
theorem turned (h : p.Appended e₀ place faultless initial literals log) {i : Nat}
    {phase : Phase Engine Bool} (hturned : p.Turned p' i phase) {t : Task Engine Bool}
    (ht : p.tasks[i]? = some t) {added left : List Text}
    (hleft : literals[i]? = some (addedBy i log ++ (added ++ left)))
    (howes : Task.Owes e₀ place faultless { t with phase } left)
    (hfilled : Engine.Filled e₀ place
      (initial ++ (log.map Prod.snd).flatten ++ added.flatten) p'.state) :
    p'.Appended e₀ place faultless initial literals (log ++ added.map (i, ·)) where
  filled := by
    have htexts : (added.map (i, ·)).map Prod.snd = added := by simp [Function.comp_def]
    rw [List.map_append, htexts, List.flatten_append, ← List.append_assoc]
    exact hfilled
  length := hturned.length.trans h.length
  known r hr := by
    rcases List.mem_append.mp hr with hr | hr
    · exact h.known r hr
    · obtain ⟨text, -, rfl⟩ := List.mem_map.mp hr
      rw [← h.length]
      exact (List.getElem?_eq_some_iff.mp ht).1
  owed {j t'} ht' := by
    obtain ⟨t₀, ht₀, hcase⟩ := hturned.of ht'
    rw [addedBy_append]
    rcases hcase with ⟨rfl, rfl⟩ | ⟨hj, hstays⟩
    · obtain rfl := Option.some.inj (ht.symm.trans ht₀)
      rw [← List.append_assoc] at hleft
      rw [addedBy_own]
      exact ⟨left, hleft, howes⟩
    · obtain ⟨left', hleft', howes'⟩ := h.owed ht₀
      rw [addedBy_other hj, List.append_nil]
      exact ⟨left', hleft', hstays.owes howes'⟩

/-- A turn ends where the run of the task comes to: more has been added and less is owed. -/
theorem advance (h : p.Appended e₀ place faultless initial literals log) {i : Nat}
    {t : Task Engine Bool} (ht : p.tasks[i]? = some t) {r : Run Engine Bool} {left : List Text}
    (hleft : literals[i]? = some (addedBy i log ++ left))
    (hr : r.Adds (Engine.Filled e₀ place) (Engine.Spoilt e₀ faultless) Served
      (initial ++ (log.map Prod.snd).flatten) left)
    (hunspoilt : ¬Engine.Spoilt e₀ faultless (p.advance i r).state) :
    ∃ log', (p.advance i r).Appended e₀ place faultless initial literals log' := by
  have hturned := p.turned_advance i r
  have hstate := advance_state p i r
  rw [hstate] at hunspoilt
  cases r with
  | finished outcome e =>
      obtain ⟨added, rest, rfl, hfilled, hserved⟩ := hr hunspoilt
      exact ⟨_, h.turned hturned ht hleft hserved (hstate ▸ hfilled)⟩
  | asleep seconds e wake =>
      obtain ⟨added, rest, rfl, hfilled, hwake⟩ := hr hunspoilt
      exact ⟨_, h.turned hturned ht hleft hwake (hstate ▸ hfilled)⟩

theorem resume (h : p.Appended e₀ place faultless initial literals log) (i : Nat)
    (hunspoilt : ¬Engine.Spoilt e₀ faultless (p.resume i).state) :
    ∃ log', (p.resume i).Appended e₀ place faultless initial literals log' := by
  obtain hstay | ⟨t, ht, hphase, -, hwait⟩ | ⟨t, ht, hphase, hstart⟩ |
    ⟨t, seconds, wake, ht, hphase, hwake⟩ := resume_cases p i
  · rw [hstay]
    exact ⟨log, h⟩
  · obtain ⟨left, hleft, howes⟩ := h.owed ht
    unfold Task.Owes at howes
    rw [hphase] at howes
    have hfilled := h.filled
    rw [← List.append_nil (initial ++ _)] at hfilled
    rw [hwait]
    have hnothing : literals[i]? = some (addedBy i log ++ ([] ++ left)) := hleft
    exact ⟨_, h.turned (turned_setPhase p p.state i .waiting) ht hnothing howes hfilled⟩
  · obtain ⟨left, hleft, howes⟩ := h.owed ht
    rw [hstart] at hunspoilt ⊢
    refine h.advance ht hleft ?_ hunspoilt
    unfold Task.Owes at howes
    rcases hphase with ⟨hfresh, -⟩ | hcalled
    · rw [hfresh] at howes
      exact howes _ _ h.filled
    · rw [hcalled] at howes
      exact howes _ _ h.filled
  · obtain ⟨left, hleft, howes⟩ := h.owed ht
    rw [hwake] at hunspoilt ⊢
    unfold Task.Owes at howes
    rw [hphase] at howes
    exact h.advance ht hleft (howes _ _ h.filled) hunspoilt

end Appended

end Pool

/-! ### Sessions -/

/-- An event is posted whose object appends these literals, or somebody has a turn. -/
def Happening.Appends (e : Engine) (place : Place) (literals : Post → List Text) : Happening → Prop
  | .post p => e.Appends place p (literals p)
  | .ask _ => False
  | .turn _ => True

/-- Handlers that append do not fail: the presenter refuses nothing, and whoever is to wait can be
told for how long. -/
structure Engine.Faultless (e : Engine) (posts : List Post) : Prop where
  steadfast : e.presenter.Steadfast
  lasting : ∀ post ∈ posts, ∀ body, e.handlerOf? post = some body → Script.Lasting e.settings body

/-- The reports of a session never become fewer. -/
theorem session_unspoilt {e : Engine} {faultless : Prop} {happenings : List Happening}
    {x : Happening} (h : ¬e.Spoilt faultless (session e (happenings ++ [x])).state) :
    ¬e.Spoilt faultless (session e happenings).state := by
  obtain ⟨hobeys, hbefore⟩ := session_obeys Engine.lawful_reporting (e := e) trivial happenings
  have hafter := (happen_obeys Engine.lawful_reporting hobeys x).2
  rw [session_append] at h
  refine mt (fun hspoilt => ⟨hspoilt.1, fun heq => hspoilt.2 ?_⟩) h
  exact Nat.le_antisymm (hafter.trans heq.le) hbefore

section

variable {e : Engine} {place : Place} {initial : Text} {serialize : Bool} {faultless : Prop}
  {literals : Post → List Text}

theorem session_appended (hinitial : e.scene.textAt? place = some initial)
    (hserialize : e.settings.serializeEvents = .ok serialize)
    (hnever : faultless → ∀ events, e.presenter.failure events = none) {happenings : List Happening}
    (happends : ∀ x ∈ happenings, x.Appends e place literals)
    (hlasting : faultless → ∀ post ∈ happenings.filterMap Happening.post?, ∀ body,
      e.handlerOf? post = some body → Script.Lasting e.settings body)
    (hunspoilt : ¬e.Spoilt faultless (session e happenings).state) :
    ∃ log, (session e happenings).Appended e place faultless initial
      ((happenings.filterMap Happening.post?).map literals) log := by
  induction happenings using List.reverseRecOn with
  | nil => exact ⟨[], .empty hinitial⟩
  | append_singleton happenings x ih =>
      obtain ⟨hbefore, hx⟩ := List.forall_mem_append.mp happends
      rw [List.filterMap_append] at hlasting ⊢
      obtain ⟨log, h⟩ := ih hbefore
        (fun hf post hpost => hlasting hf post (List.mem_append_left _ hpost))
        (session_unspoilt hunspoilt)
      rw [session_append, List.foldl_cons, List.foldl_nil] at hunspoilt ⊢
      cases x with
      | ask op => exact (hx _ (List.mem_singleton_self _)).elim
      | turn i =>
          rw [List.filterMap_cons_none rfl, List.filterMap_nil, List.append_nil]
          exact h.resume i hunspoilt
      | post post =>
          have hadd : post.addTo (session e happenings) =
              (session e happenings).post (if serialize then some post.source else none)
                (Engine.offer post.event post.origin) := by
            rw [Post.addTo, h.filled.steady.settings, hserialize]
          rw [Pool.happen, hadd] at hunspoilt ⊢
          rw [List.map_append]
          have hpost := hx _ (List.mem_singleton_self _)
          refine (h.post _ fun t e' he' => ?_).resume _ hunspoilt
          refine Engine.offer_adds hinitial hnever hpost (fun hf => ?_) he'
          exact hlasting hf post (List.mem_append_right _ (List.mem_singleton_self _))

/-- **Whatever handlers put behind the text in a field while they take turns is there in the end,
once each, and in the order of each.**  Events are posted whose objects do nothing but that and
wait, and anybody has turns in any order.  Nothing is said once a script error has been reported;
none is if the presenter refuses nothing and every wait has a duration. -/
theorem session_appends (hinitial : e.scene.textAt? place = some initial)
    (hserialize : e.settings.serializeEvents = .ok serialize) {happenings : List Happening}
    (happends : ∀ x ∈ happenings, x.Appends e place literals)
    (hfaults : e.Faultless (happenings.filterMap Happening.post?) ∨
      (session e happenings).state.reports = e.reports) :
    let p := session e happenings
    let posts := happenings.filterMap Happening.post?
    ∃ log : List (Nat × Text),
      p.state.scene.textAt? place = some (initial ++ (log.map Prod.snd).flatten) ∧
      (∀ r ∈ log, r.1 < posts.length) ∧
      ∀ i post, posts[i]? = some post → addedBy i log <+: literals post ∧
        ∀ outcome, p.outcome? i = some outcome →
          outcome = .ok true ∧ addedBy i log = literals post := by
  intro p posts
  have hunspoilt : ¬e.Spoilt (e.Faultless posts) p.state := fun hspoilt =>
    hfaults.elim hspoilt.1 hspoilt.2
  obtain ⟨log, h⟩ := session_appended hinitial hserialize
    (fun hf => hf.steadfast) happends (fun hf => hf.lasting) hunspoilt
  refine ⟨log, h.filled.textAt? hinitial, fun r hr => ?_, fun i post hpost => ?_⟩
  · have hknown := h.known r hr
    rwa [List.length_map] at hknown
  · have hlt : i < p.tasks.length := by
      rw [h.length, List.length_map]
      exact (List.getElem?_eq_some_iff.mp hpost).1
    have ht := List.getElem?_eq_getElem hlt
    obtain ⟨left, hleft, howes⟩ := h.owed ht
    rw [List.getElem?_map, hpost] at hleft
    have hliterals : literals post = addedBy i log ++ left := Option.some.inj hleft
    refine ⟨hliterals ▸ List.prefix_append _ _, fun outcome houtcome => ?_⟩
    have hdone : (p.tasks[i]).phase = .done outcome := by
      rw [Pool.outcome?, ht] at houtcome
      dsimp only [Option.map_some] at houtcome
      split at houtcome
      · rename_i outcome' hphase
        rw [Option.some.inj houtcome] at hphase
        exact Option.some.inj hphase
      · exact nomatch houtcome
    unfold Pool.Task.Owes at howes
    rw [hdone] at howes
    exact ⟨howes.1, by rw [hliterals, howes.2, List.append_nil]⟩

end

/-! ### Two handlers that take turns -/

namespace Script

/-- Two puts behind the text in a container, and a wait between them. -/
def scribble (q : Char) (a b container : Text) : List Text :=
  [Command.putStatement q a .after container, "wait 1 second",
    Command.putStatement q b .after container]

theorem ofStatement?_wait : Command.ofStatement? "wait 1 second" = some (.wait "1" true) := by
  decide +kernel

theorem evaluate_second (view : View) : Expr.evaluate view "1" = .ok "1" := by
  have htrim : Text.trim "1" = "1" := by decide +kernel
  have hscan : Token.scan "1" = [⟨.number, "1", 0, 1⟩] := by decide +kernel
  have hparse : Expr.parse "1" = .literal "1" := Expr.parse_operand hscan rfl rfl rfl
  rw [Expr.evaluate, htrim, hparse]
  rfl

/-- A handler that scribbles appends, and its wait lasts. -/
theorem scribble_appends {e : Engine} {place : Place} {post : Post} {q : Char}
    {a b container : Text}
    (hwritten : (q = '"' ∨ q = '\'') ∧ q ∉ a ∧ q ∉ b ∧ container ≠ [] ∧
      Text.trim container = container ∧ (a ++ b ++ container).all Search.inLine)
    (hmeans : Handler.Means e.scene ⟨e.registers, { origin := post.origin }⟩ container place)
    (hbody : e.handlerOf? post = some (scribble q a b container)) :
    e.Appends place post [a, b] ∧
      ∀ body, e.handlerOf? post = some body → Lasting e.settings body := by
  obtain ⟨hq, ha, hb, hne, htrim, hline⟩ := hwritten
  obtain ⟨hliterals, hend⟩ := List.forall_mem_append.mp (List.all_eq_true.mp hline)
  obtain ⟨hfirst, hlast⟩ := List.forall_mem_append.mp hliterals
  have hput := Command.ofStatement?_put hq ha .after hne htrim
    (List.forall_mem_append.mpr ⟨hfirst, hend⟩)
  have hput' := Command.ofStatement?_put hq hb .after hne htrim
    (List.forall_mem_append.mpr ⟨hlast, hend⟩)
  have hwaits : Line.ofText "wait 1 second" = .command "wait 1 second" := by decide +kernel
  refine ⟨⟨_, hbody, .put (ofText_put _) hq ha hput hmeans <| .wait hwaits ofStatement?_wait <|
    .put (ofText_put _) hq hb hput' hmeans .nil⟩, fun body hbody' => ?_⟩
  obtain rfl := Option.some.inj (hbody.symm.trans hbody')
  intro statement hmem amount seconds hwait s _ _ f s'
  simp only [scribble, List.mem_cons, List.not_mem_nil, or_false] at hmem
  rcases hmem with rfl | rfl | rfl
  · exact nomatch hput.symm.trans hwait
  · obtain ⟨rfl, rfl⟩ := Command.wait.inj (Option.some.inj (ofStatement?_wait.symm.trans hwait))
    exact Handler.wait_lasts (evaluate_second _) f s'
  · exact nomatch hput'.symm.trans hwait

end Script

/-- An engine on a card with a field that says `old` and two buttons that write into it, with a
wait between; they name the field in different ways. -/
def Engine.scribbled : Engine :=
  let part (id name script : Text) (body : Part.Body) : Part :=
    { id, name, rect := ⟨.float 0, .float 0, .float 80, .float 20⟩, visible := true, script
      layer := "card", rotation := .float 0, body }
  let button (id script : Text) : Part :=
    part id "Button" script (.button "Button" "rounded" [] [] (.float 16) true)
  let field : Part := part "f" "Note" [] (.field "old" "rectangle" [] [] (.float 16) false true)
  let first : Text := "on mouseUp\nput \"a\" after field \"Note\"\nwait 1 second\n" ++
    "put \"b\" after field \"Note\"\nend mouseUp"
  let second : Text := "on mouseUp\nput 'x' after card field f\nwait 1 second\n" ++
    "put 'y' after card field f\nend mouseUp"
  .new (.assemble (Stack.usual "s") []
      [{ Card.usual "a" "A" with parts := [button "b1" first, button "b2" second, field] }] 0 0)
    { hostMarker := none, repeatLimit := .null, ticksPerSecond := .null
      serializeEvents := .ok true, idleInterval := .ok .null, isServed := .ok false }
    { console := none, replies := [], failure := fun _ => none }
    (.still .bare)

/-- Both buttons are clicked, and the second one goes on first. -/
theorem session_appends_scribbled :
    let first : Post := ⟨"mouseUp", some "b1"⟩
    let second : Post := ⟨"mouseUp", some "b2"⟩
    let e := Engine.scribbled
    let clicks : List Happening := [.post first, .post second, .turn 1, .turn 0]
    e.Faultless [first, second] ∧ ∃ log : List (Nat × Text),
      (session e clicks).state.scene.textAt? (.cardPart 0 2) =
        some ("old" ++ (log.map Prod.snd).flatten) ∧
      addedBy 0 log = ["a", "b"] ∧ addedBy 1 log = ["x", "y"] := by
  intro first second e clicks
  have hmeans : Handler.Means e.scene ⟨e.registers, { origin := some "b1" }⟩ "field \"Note\""
      (.cardPart 0 2) :=
    ⟨by decide +kernel, none, "\"Note\"", by decide +kernel, by decide +kernel⟩
  have hmeans' : Handler.Means e.scene ⟨e.registers, { origin := some "b2" }⟩ "card field f"
      (.cardPart 0 2) :=
    ⟨by decide +kernel, some .card, "f", by decide +kernel, by decide +kernel⟩
  obtain ⟨hfirst, hlasting⟩ : e.Appends (.cardPart 0 2) first ["a", "b"] ∧ _ :=
    Script.scribble_appends (by decide +kernel) hmeans
      (show _ = some (Script.scribble '"' "a" "b" _) by decide +kernel)
  obtain ⟨hsecond, hlasting'⟩ : e.Appends (.cardPart 0 2) second ["x", "y"] ∧ _ :=
    Script.scribble_appends (by decide +kernel) hmeans'
      (show _ = some (Script.scribble '\'' "x" "y" _) by decide +kernel)
  have hfaultless : e.Faultless [first, second] :=
    ⟨fun _ => rfl, List.forall_mem_cons.mpr ⟨hlasting, List.forall_mem_singleton.mpr hlasting'⟩⟩
  let literals : Post → List Text := fun post => if post = first then ["a", "b"] else ["x", "y"]
  have happends : ∀ x ∈ clicks, x.Appends e (.cardPart 0 2) literals :=
    List.forall_mem_cons.mpr ⟨hfirst, List.forall_mem_cons.mpr ⟨hsecond,
      List.forall_mem_cons.mpr ⟨trivial, List.forall_mem_singleton.mpr trivial⟩⟩⟩
  have hinitial : e.scene.textAt? (.cardPart 0 2) = some "old" := by decide +kernel
  have hserialize : e.settings.serializeEvents = .ok true := rfl
  have hposts : clicks.filterMap Happening.post? = [first, second] := rfl
  obtain ⟨log, htext, -, hadded⟩ :=
    session_appends hinitial hserialize happends (.inl (hposts.symm ▸ hfaultless))
  have hdone : (session e clicks).outcome? 0 = some (.ok true) := by decide +kernel
  have hdone' : (session e clicks).outcome? 1 = some (.ok true) := by decide +kernel
  have hone := ((hadded 0 first (hposts ▸ rfl)).2 _ hdone).2
  have htwo := ((hadded 1 second (hposts ▸ rfl)).2 _ hdone').2
  exact ⟨hfaultless, log, htext, hone.trans (if_pos rfl), htwo.trans (if_neg (by decide))⟩

end CardTalk
