/-
What lasts whatever happens to an engine.

Commands can read scripts but not write them, and a card that is added is empty and has a blank
one.  So unless a host-mode script writes one (`Host.Scope.unscripted`), nothing that happens
gives anything in the scene a script that nothing had before.  The user gets nowhere except by
the edits of the cards.  And what decides about scripts and about the failures of the presenter
is settled at the start.

`Engine.Later` says this of an engine and of what has become of it.  Every dispatch, however
deeply nested, makes an engine a later one.
-/
import CardTalk.Proofs.Scene.Writing
import CardTalk.Proofs.Session.Basic

namespace CardTalk

/-! ### Scripts are not written -/

/-- The entity that an attempt to write a property leaves. -/
def Property.Change.left? : Change → Option Entity
  | made x | failed x _ => some x
  | refused | readOnly _ => none

theorem Attribute.Name.ne_script {property : Text} {n : Attribute.Name}
    (hproperty : ¬Property.readOnly.contains property) (h : ofProperty? property = some n) :
    n ≠ .script := by
  rintro rfl
  obtain rfl : Attribute.Name.script.property = property := by simpa using List.find?_some h
  exact hproperty (by decide)

/-- The scripts of a background and of all that is on it. -/
def Background.scripts (b : Background) : List Text := b.script :: b.parts.map Part.script

@[inherit_doc Background.scripts]
def Card.scripts (c : Card) : List Text := c.script :: c.parts.map Part.script

namespace Entity

open Property

variable {x y : Entity}

/-- The scripts of an entity and of all that is on it. -/
def scripts : Entity → List Text
  | stack s => [s.script]
  | background b => b.scripts
  | card c => c.scripts
  | part p => [p.script]

theorem write_scripts {n : Attribute.Name} (hn : n ≠ .script) (x : Entity) {a : Attribute}
    (ha : ∀ ps, a ≠ .parts ps) : (x.write n a).scripts = x.scripts := by
  cases x with
  | stack s =>
      show (stack (s.write n a)).scripts = (stack s).scripts
      unfold Stack.write
      split
      case h_3 => exact absurd rfl hn
      all_goals rfl
  | background b =>
      show (b.write n a).scripts = b.scripts
      unfold Background.write
      split
      case h_3 => exact absurd rfl hn
      case h_5 ps => exact absurd rfl (ha ps)
      all_goals rfl
  | card c =>
      show (c.write n a).scripts = c.scripts
      unfold Card.write
      split
      case h_4 => exact absurd rfl hn
      case h_7 ps => exact absurd rfl (ha ps)
      all_goals rfl
  | part p =>
      show (part (p.write n a)).scripts = (part p).scripts
      unfold Part.write
      split
      case h_5 => exact absurd rfl hn
      all_goals rfl

theorem writeAttribute_scripts {n : Attribute.Name} (hn : n ≠ .script) {value : Text}
    (h : (writeAttribute x n value).left? = some y) : y.scripts = x.scripts := by
  unfold writeAttribute at h
  split at h
  · exact nomatch h
  · exact Option.some.inj h ▸ write_scripts hn x nofun
  · split at h
    · exact nomatch h
    · split at h
      · exact Option.some.inj h ▸ write_scripts hn x nofun
      · exact Option.some.inj h ▸ rfl
  · exact Option.some.inj h ▸ write_scripts hn x nofun

/-- No attempt to write a property touches a script, whatever comes of it. -/
theorem setProperty_scripts {name value : Text} (h : (x.setProperty name value).left? = some y) :
    y.scripts = x.scripts := by
  unfold setProperty at h
  dsimp only at h
  split at h
  · exact nomatch h
  · rename_i hproperty
    split at h
    · split at h
      · split at h
        · exact Option.some.inj h ▸ rfl
        · exact Option.some.inj h ▸ rfl
        · exact nomatch h
      · exact nomatch h
    · split at h
      · rename_i hn
        exact writeAttribute_scripts (Attribute.Name.ne_script hproperty hn) h
      · exact nomatch h

/-- What a command makes of an entity has the same scripts. -/
theorem Written.scripts_eq (h : x.Written y) : y.scripts = x.scripts := by
  cases h with
  | property h => exact setProperty_scripts (congrArg Change.left? h)
  | content p content =>
      have hscript : (p.withContent content).script = p.script := by
        unfold Part.withContent
        split <;> rfl
      exact congrArg (fun script => [script]) hscript
  | visible | cardColor | cardName | backdropColor | patternColor => rfl

end Entity

namespace Scene

variable {s : Scene} {place : Place} {x y : Entity}

/-- The scripts of everything in a scene. -/
def allScripts (s : Scene) : List Text :=
  s.stack.script :: s.backgrounds.flatMap Background.scripts ++ s.cards.flatMap Card.scripts

theorem mem_allScripts {script : Text} :
    script ∈ s.allScripts ↔ script = s.stack.script ∨
      (∃ b ∈ s.backgrounds, script ∈ b.scripts) ∨ ∃ c ∈ s.cards, script ∈ c.scripts := by
  rw [allScripts, List.mem_append, List.mem_cons, List.mem_flatMap, List.mem_flatMap, or_assoc]

theorem script_mem_allScripts (hx : s.entity? place = some x) : x.script ∈ s.allScripts := by
  rw [mem_allScripts]
  cases place with
  | stack =>
      obtain rfl : .stack s.stack = x := Option.some.inj hx
      exact .inl rfl
  | background i =>
      obtain ⟨b, hb, rfl⟩ := Option.map_eq_some_iff.mp hx
      exact .inr (.inl ⟨b, List.mem_of_getElem? hb, List.mem_cons_self⟩)
  | card i =>
      obtain ⟨c, hc, rfl⟩ := Option.map_eq_some_iff.mp hx
      exact .inr (.inr ⟨c, List.mem_of_getElem? hc, List.mem_cons_self⟩)
  | backgroundPart i k =>
      obtain ⟨b, hb, hpart⟩ := Option.bind_eq_some_iff.mp hx
      obtain ⟨p, hp, rfl⟩ := Option.map_eq_some_iff.mp hpart
      exact .inr (.inl ⟨b, List.mem_of_getElem? hb,
        List.mem_cons_of_mem _ (List.mem_map_of_mem (List.mem_of_getElem? hp))⟩)
  | cardPart i k =>
      obtain ⟨c, hc, hpart⟩ := Option.bind_eq_some_iff.mp hx
      obtain ⟨p, hp, rfl⟩ := Option.map_eq_some_iff.mp hpart
      exact .inr (.inr ⟨c, List.mem_of_getElem? hc,
        List.mem_cons_of_mem _ (List.mem_map_of_mem (List.mem_of_getElem? hp))⟩)

/-- Nothing is seen of an element being replaced by one with the same value of a function. -/
theorem map_set_of_eq {α β : Type} {f : α → β} {l : List α} {i : Nat} {a b : α}
    (ha : l[i]? = some a) (hb : f b = f a) : (l.set i b).map f = l.map f := by
  rw [List.map_set, hb]
  exact set_of_getElem? (by rw [List.getElem?_map, ha]; rfl)

theorem flatMap_set_of_eq {α β : Type} {f : α → List β} {l : List α} {i : Nat} {a b : α}
    (ha : l[i]? = some a) (hb : f b = f a) : (l.set i b).flatMap f = l.flatMap f := by
  rw [List.flatMap_def, List.flatMap_def, map_set_of_eq ha hb]

theorem replace_allScripts (hx : s.entity? place = some x) (hy : y.scripts = x.scripts) :
    (s.replace place y).allScripts = s.allScripts := by
  unfold Scene.replace
  split
  · obtain rfl : .stack s.stack = x := Option.some.inj hx
    rw [allScripts, List.singleton_inj.mp hy, allScripts]
  · obtain ⟨b, hb, rfl⟩ := Option.map_eq_some_iff.mp hx
    rw [allScripts, flatMap_set_of_eq hb hy, allScripts]
  · obtain ⟨c, hc, rfl⟩ := Option.map_eq_some_iff.mp hx
    rw [allScripts, flatMap_set_of_eq hc hy, allScripts]
  · obtain ⟨b, hb, hpart⟩ := Option.bind_eq_some_iff.mp hx
    obtain ⟨p, hp, rfl⟩ := Option.map_eq_some_iff.mp hpart
    have hparts := map_set_of_eq hp (List.singleton_inj.mp hy)
    rw [allScripts, modify_of_getElem? hb,
      flatMap_set_of_eq hb (congrArg (b.script :: ·) hparts), allScripts]
  · obtain ⟨c, hc, hpart⟩ := Option.bind_eq_some_iff.mp hx
    obtain ⟨p, hp, rfl⟩ := Option.map_eq_some_iff.mp hpart
    have hparts := map_set_of_eq hp (List.singleton_inj.mp hy)
    rw [allScripts, modify_of_getElem? hc,
      flatMap_set_of_eq hc (congrArg (c.script :: ·) hparts), allScripts]
  · rfl

theorem rewrite_allScripts {change : Entity → Entity} (h : ∀ x, (change x).scripts = x.scripts)
    (s : Scene) (r : Reference) : (s.rewrite r change).allScripts = s.allScripts := by
  obtain hsame | ⟨place, x, hx, hreplace⟩ := s.rewrite_cases r change
  · rw [hsame]
  · rw [hreplace, replace_allScripts hx (h x)]

end Scene

/-- What scripts are offered, short of writing scripts. -/
def Host.Scope.unscripted : Scope where
  calls _ := True
  writes change := ∀ x, (change x).scripts = x.scripts
  reaches := False

theorem Host.Scope.methods_le_unscripted : Scope.methods.Le .unscripted where
  writes _ h := h.elim

/-! ### Later engines -/

theorem Navigation.replay_append (start : Navigation) (later earlier : List Edit) :
    start.replay (later ++ earlier) = (start.replay earlier).replay later :=
  List.foldr_append

namespace Engine

variable {e e' e'' : Engine}

/-- What can be said of what becomes of an engine, whatever happens. -/
structure Later (e e' : Engine) : Prop where
  /-- Navigation goes on by edits. -/
  edits : ∃ since, e'.scene.edits = since ++ e.scene.edits ∧
    e'.scene.navigation = e.scene.navigation.replay since
  /-- Nothing is given a script. -/
  scripts : ∀ script ∈ e'.scene.allScripts, script = [] ∨ script ∈ e.scene.allScripts
  settings : e'.settings = e.settings
  world : e'.world = e.world
  failure : e'.presenter.failure = e.presenter.failure

namespace Later

theorem refl (e : Engine) : Later e e :=
  ⟨⟨[], rfl, rfl⟩, fun _ h => .inr h, rfl, rfl, rfl⟩

theorem trans (h : Later e e') (h' : Later e' e'') : Later e e'' where
  edits := by
    obtain ⟨since, hedits, hnavigation⟩ := h.edits
    obtain ⟨since', hedits', hnavigation'⟩ := h'.edits
    refine ⟨since' ++ since, ?_, ?_⟩
    · rw [hedits', hedits, List.append_assoc]
    · rw [hnavigation', hnavigation, Navigation.replay_append]
  scripts script hscript := by
    rcases h'.scripts script hscript with hblank | hscript
    · exact .inl hblank
    · exact h.scripts script hscript
  settings := h'.settings.trans h.settings
  world := h'.world.trans h.world
  failure := h'.failure.trans h.failure

/-- Without an edit the user is where he was. -/
theorem navigation (h : Later e e') (hedits : e'.scene.edits = e.scene.edits) :
    e'.scene.navigation = e.scene.navigation := by
  obtain ⟨since, hsince, hnavigation⟩ := h.edits
  obtain rfl : since = [] := List.append_left_eq_self.mp (hsince.symm.trans hedits)
  exact hnavigation

/-- One more edit. -/
theorem edit {s : Scene} (edit : Edit) (hedits : s.edits = edit :: e.scene.edits)
    (hnavigation : s.navigation = e.scene.navigation.after edit)
    (hscripts : ∀ script ∈ s.allScripts, script = [] ∨ script ∈ e.scene.allScripts) :
    Later e { e with scene := s } :=
  ⟨⟨[edit], hedits, hnavigation⟩, hscripts, rfl, rfl, rfl⟩

theorem replace {place : Place} {x y : Entity} (hx : e.scene.entity? place = some x)
    (hy : y.scripts = x.scripts) : Later e { e with scene := e.scene.replace place y } := by
  obtain ⟨hnavigation, hedits⟩ := e.scene.replace_navigation place y
  refine ⟨⟨[], hedits, hnavigation⟩, fun script hscript => .inr ?_, rfl, rfl, rfl⟩
  exact Scene.replace_allScripts hx hy ▸ hscript

theorem moveTo (e : Engine) (i : Nat) (back : Bool) :
    Later e { e with scene := e.scene.moveTo i back } := by
  obtain ⟨hstack, hbackgrounds, hcards, -⟩ := Scene.of_contents (e.scene.moveTo_contents i back)
  refine .edit _ (e.scene.moveTo_edits i back) (e.scene.moveTo_navigation i back) ?_
  intro script hscript
  rw [Scene.allScripts, hstack, hbackgrounds, hcards] at hscript
  exact .inr hscript

theorem addCard {name : Option Text} {s : Scene} (h : e.scene.addCard name = .ok s) :
    Later e { e with scene := s } := by
  obtain ⟨card, issued, hparts, hblank, hcurrent, rfl⟩ := Scene.addCard_eq h
  have hcard : card.scripts = [[]] := by rw [Card.scripts, hparts, hblank]; rfl
  have hadded : Later e { e with scene := e.scene.insertCard card issued } := by
    refine .edit _ rfl (Scene.insertCard_navigation hcurrent card issued) fun script hscript => ?_
    rw [Scene.mem_allScripts] at hscript ⊢
    rcases hscript with hstack | hbackground | ⟨c, hc, hscript⟩
    · exact .inr (.inl hstack)
    · exact .inr (.inr (.inl hbackground))
    · rcases List.mem_append.mp hc with hc | hc
      · exact .inr (.inr (.inr ⟨c, List.mem_of_mem_take hc, hscript⟩))
      · rcases List.mem_cons.mp hc with rfl | hc
        · exact .inl (List.mem_singleton.mp (hcard ▸ hscript))
        · exact .inr (.inr (.inr ⟨c, List.mem_of_mem_drop hc, hscript⟩))
  exact hadded.trans (.moveTo _ _ _)

theorem deleteCard {s : Scene} (h : e.scene.deleteCard = .ok (some s)) :
    Later e { e with scene := s } := by
  obtain ⟨card, -, -, hstack, hbackgrounds, hcards, hedits, hnavigation⟩ := Scene.deleteCard_eq h
  refine .edit _ hedits hnavigation fun script hscript => .inr ?_
  rw [Scene.mem_allScripts, hstack, hbackgrounds, hcards] at hscript
  rw [Scene.mem_allScripts]
  rcases hscript with hstack | hbackground | ⟨c, hc, hscript⟩
  · exact .inl hstack
  · exact .inr (.inl hbackground)
  · exact .inr (.inr ⟨c, List.mem_of_mem_eraseIdx hc, hscript⟩)

end Later

end Engine

/-! ### Whatever happens -/

/-- Whoever has an engine leaves a later one. -/
def Conduct.lasting : Conduct Engine where
  holds e := e.world.host.Keeps .unscripted
  leads := Engine.Later
  refl _ := .refl _
  trans := .trans
  stable h hs := h.world ▸ hs

namespace Engine

theorem hosted_lasting : Hosted .lasting := by
  refine .of_keeps .unscripted (fun _ => trivial) (fun _ _ _ => ?_) (fun he => he)
    (fun {e change} _ hchange r => ?_) fun _ hreach => hreach.elim
  · exact ⟨⟨⟨[], rfl, rfl⟩, fun _ h => .inr h, rfl, rfl, rfl⟩, trivial⟩
  · obtain ⟨hnavigation, hedits⟩ := e.scene.rewrite_navigation r change
    refine ⟨⟨⟨[], hedits, hnavigation⟩, fun script hscript => .inr ?_, rfl, rfl, rfl⟩, trivial⟩
    exact Scene.rewrite_allScripts hchange e.scene r ▸ hscript

theorem stepwise_lasting : Stepwise .lasting where
  hosted := hosted_lasting
  aside {e e'} _ haside := by
    cases haside with
    | trace | «show» | save | registers | cursor | idling | effects =>
        exact ⟨⟨[], rfl, rfl⟩, fun _ h => .inr h, rfl, rfl, rfl⟩
    | breakOff hx hy => exact .replace hx (Entity.setProperty_scripts (by rw [hy]; rfl))
    | stay => exact .moveTo ..
  change {e s} _ hchange := by
    cases hchange with
    | replace hx hy => exact .replace hx hy.scripts_eq
    | add hadd => exact .addCard hadd
    | delete hdelete => exact .deleteCard hdelete
  move _ _ _ _ := .moveTo ..

theorem lawful_lasting : Lawful .lasting := stepwise_lasting.lawful

/-- However deeply it is nested, a dispatch leaves a later engine at each of its sleeps and when
it ends. -/
theorem dispatchAt_lasting (depth : Nat) (event script : Text) (origin : Option Text) :
    (dispatchAt depth event script origin).Follows .lasting :=
  lawful_lasting.fair.dispatchAt depth event script origin

end Engine

end CardTalk
