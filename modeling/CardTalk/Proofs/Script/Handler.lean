/-
Finding handlers in a script that is a list of them.

A handler is looked for by whole words: the statement that opens it begins with `on` and the
name, and the one that ends it with `end` and the name, in any case (`BeginsWith`).  A handler
that is written in full is a statement of just these two words, its body, and a statement of
just those other two (`Written`); a statement of just two words begins with exactly the two
words it is made of, however the name of an event begins (`Frames.beginsWith_iff`).  So where
no line of a body frames a handler for the event itself, the search passes all the handlers
for other events and stops at both ends of the first one for this event, and it finds nothing
if there is none (`handlerSpan?_first`, `handlerSpan?_none`).
-/
import CardTalk.Proofs.Text.Ways
import CardTalk.Script.Handler

namespace CardTalk.Script

open Search Text

/-! ### Whole words -/

/-- The statement begins with a keyword and a name as whole words, in any case. -/
def BeginsWith (keyword name statement : Text) : Prop :=
  ∃ k blanks n rest, statement = k ++ (blanks ++ (n ++ rest)) ∧ Alike k keyword ∧
    blanks ≠ [] ∧ (∀ c ∈ blanks, isBlank c) ∧ Alike n name ∧ ∀ c ∈ rest.head?, ¬isWord c

theorem matches?_framing {keyword name statement : Text} :
    (framing keyword name).matches? statement = true ↔ BeginsWith keyword name statement := by
  have hways := (ways_word keyword).bind fun _ => ways_blanks1.bind fun _ =>
    (ways_word name).bind fun _ => ways_notBefore isWord
  refine hways.matches?_iff.trans ⟨?_, ?_⟩
  · rintro ⟨_, rest, _, _, ⟨k, hk, rfl⟩, _, _, ⟨blanks, hne, hblanks, rfl⟩, _, _, ⟨n, hn, rfl⟩, rfl,
      hrest⟩
    exact ⟨k, blanks, n, rest, rfl, hk, hne, hblanks, hn, hrest⟩
  · rintro ⟨k, blanks, n, rest, rfl, hk, hne, hblanks, hn, hrest⟩
    exact ⟨(), rest, (), _, ⟨k, hk, rfl⟩, (), _, ⟨blanks, hne, hblanks, rfl⟩, (), rest,
      ⟨n, hn, rfl⟩, rfl, hrest⟩

theorem opensHandler_iff {event statement : Text} :
    opensHandler event statement = true ↔ BeginsWith "on" event statement := matches?_framing

theorem endsHandler_iff {event statement : Text} :
    endsHandler event statement = true ↔ BeginsWith "end" event statement := matches?_framing

/-- The text is a word: something that an identifier may be. -/
def IsName (name : Text) : Prop := name ≠ [] ∧ ∀ c ∈ name, isWord c

instance (name : Text) : Decidable (IsName name) :=
  decidable_of_iff (name ≠ [] ∧ name.all isWord) (and_congr_right fun _ => List.all_eq_true)

theorem IsName.forall_not_isBlank {name : Text} (h : IsName name) : ∀ c ∈ name, ¬isBlank c :=
  fun c hc => not_isBlank_of_isWord (h.2 c hc)

/-- The statement consists of a keyword and a name, in any case. -/
def Frames (keyword name statement : Text) : Prop :=
  ∃ k blanks n, statement = k ++ (blanks ++ n) ∧ Alike k keyword ∧
    blanks ≠ [] ∧ (∀ c ∈ blanks, isBlank c) ∧ Alike n name ∧ IsName n

/-- A text without blanks, the blanks after it, and what is behind them are determined by the
text that they make. -/
theorem parts_eq {k blanks n : Text} (hk : ∀ c ∈ k, ¬isBlank c) (hne : blanks ≠ [])
    (hblanks : ∀ c ∈ blanks, isBlank c) (hn : ∀ c ∈ n.head?, ¬isBlank c) :
    (k ++ (blanks ++ n)).takeWhile (!isBlank ·) = k ∧
      ((k ++ (blanks ++ n)).dropWhile (!isBlank ·)).dropWhile isBlank = n := by
  obtain ⟨b, blanks, rfl⟩ := List.exists_cons_of_ne_nil hne
  have hb : (!isBlank b) = false := by simp [hblanks b List.mem_cons_self]
  have hk' : ∀ c ∈ k, (!isBlank c) = true := fun c hc => by simp [hk c hc]
  constructor
  · rw [List.takeWhile_append_of_pos hk', List.cons_append, List.takeWhile_cons, hb]
    simp
  · rw [List.dropWhile_append_of_pos hk', List.cons_append, List.dropWhile_cons, hb,
      ← List.cons_append]
    have hhead : n.dropWhile isBlank = n := by
      cases n with
      | nil => rfl
      | cons c n => exact List.dropWhile_cons_of_neg (hn c rfl)
    simp only [Bool.false_eq_true, if_false]
    rw [List.dropWhile_append_of_pos hblanks, hhead]

/-- A statement of two words begins with these two words and no others. -/
theorem Frames.beginsWith_iff {keyword name statement : Text} (h : Frames keyword name statement)
    {keyword' event : Text} (hkeyword : ∀ c ∈ keyword, ¬isBlank c)
    (hkeyword' : ∀ c ∈ keyword', ¬isBlank c) (hevent : IsName event) :
    BeginsWith keyword' event statement ↔ Alike keyword' keyword ∧ Alike name event := by
  obtain ⟨k, blanks, n, rfl, hk, hne, hblanks, hn, hname⟩ := h
  have hparts := parts_eq (hk.forall_not_isBlank hkeyword) hne hblanks
    (fun c hc => hname.forall_not_isBlank c (List.mem_of_mem_head? hc))
  constructor
  · rintro ⟨k', blanks', n', rest, heq, hk', hne', hblanks', hn', hrest⟩
    have hhead : ∀ c ∈ (n' ++ rest).head?, ¬isBlank c := by
      intro c hc
      rw [List.head?_append_of_ne_nil _ (hn'.ne_nil hevent.1)] at hc
      exact hn'.forall_not_isBlank hevent.forall_not_isBlank c (List.mem_of_mem_head? hc)
    have hparts' := parts_eq (hk'.forall_not_isBlank hkeyword') hne' hblanks' hhead
    rw [← heq] at hparts'
    have hkeywords : k = k' := hparts.1.symm.trans hparts'.1
    have hnames : n = n' ++ rest := hparts.2.symm.trans hparts'.2
    -- Nothing is left behind the event, because an identifier would go on there.
    have hempty : rest = [] := by
      cases rest with
      | nil => rfl
      | cons c rest => exact absurd (hname.2 c (by simp [hnames])) (hrest c rfl)
    rw [hempty, List.append_nil] at hnames
    exact ⟨hk'.symm.trans ((congrArg _ hkeywords.symm).trans hk),
      hn.symm.trans ((congrArg _ hnames).trans hn')⟩
  · rintro ⟨hkeywords, hnames⟩
    exact ⟨k, blanks, n, [], by rw [List.append_nil], hk.trans hkeywords.symm, hne, hblanks,
      hn.trans hnames, nofun⟩

/-! ### Handlers as they are written -/

/-- A handler as it is written. -/
structure Written where
  name : Text
  /-- The statement that opens it. -/
  opening : Text
  body : List Text
  /-- The statement that ends it, if there is one. -/
  closing : Option Text
  isName : IsName name
  opens : Frames "on" name opening
  closes : ∀ statement ∈ closing, Frames "end" name statement

namespace Written

/-- The statements of a handler, each on its line. -/
def lines (h : Written) : List Text := h.opening :: (h.body ++ h.closing.toList)

/-- Each handler is ended before the next one is opened: only the last may have no end. -/
def InOrder (handlers : List Written) : Prop := ∀ h ∈ handlers.dropLast, h.closing.isSome

instance (handlers : List Written) : Decidable (InOrder handlers) :=
  inferInstanceAs (Decidable (∀ h ∈ _, _))

/-- No line of a body begins like a frame of a handler for the event. -/
def Apart (event : Text) (handlers : List Written) : Prop :=
  ∀ h ∈ handlers, ∀ statement ∈ h.body,
    ¬BeginsWith "on" event statement ∧ ¬BeginsWith "end" event statement

theorem inOrder_singleton (h : Written) : InOrder [h] := nofun

/-- Handlers have no name in common with the event, or there is a first one that has. -/
theorem exists_first (handlers : List Written) (event : Text) :
    (∀ h ∈ handlers, ¬Alike h.name event) ∨
      ∃ before h after, handlers = before ++ h :: after ∧ Alike h.name event ∧
        ∀ h' ∈ before, ¬Alike h'.name event := by
  cases hfind : handlers.find? fun h => decide (Alike h.name event) with
  | none => exact .inl fun h hh => by simpa using List.find?_eq_none.mp hfind h hh
  | some h =>
      obtain ⟨hname, before, after, hsplit, hbefore⟩ := List.find?_eq_some_iff_append.mp hfind
      exact .inr ⟨before, h, after, hsplit, of_decide_eq_true hname,
        fun h' hh' => by simpa using hbefore h' hh'⟩

variable {h : Written} {handlers : List Written} {event : Text}

theorem not_isBlank_on : ∀ c ∈ ("on" : Text), ¬isBlank c := List.any_eq_false.mp (by decide)

theorem not_isBlank_end : ∀ c ∈ ("end" : Text), ¬isBlank c := List.any_eq_false.mp (by decide)

theorem opensHandler_opening (hevent : IsName event) :
    opensHandler event h.opening = true ↔ Alike h.name event := by
  rw [opensHandler_iff, h.opens.beginsWith_iff not_isBlank_on not_isBlank_on hevent]
  exact and_iff_right rfl

theorem opensHandler_closing (hevent : IsName event) {statement : Text}
    (hstatement : statement ∈ h.closing) : opensHandler event statement = false := by
  rw [Bool.eq_false_iff, ne_eq, opensHandler_iff,
    (h.closes statement hstatement).beginsWith_iff not_isBlank_end not_isBlank_on hevent]
  exact fun hboth => absurd hboth.1 (by decide)

theorem endsHandler_closing (hevent : IsName event) {statement : Text}
    (hstatement : statement ∈ h.closing) :
    endsHandler event statement = true ↔ Alike h.name event := by
  rw [endsHandler_iff,
    (h.closes statement hstatement).beginsWith_iff not_isBlank_end not_isBlank_end hevent]
  exact and_iff_right rfl

/-- Nothing in a handler for another event opens one for this event. -/
theorem opensHandler_lines (hevent : IsName event) (hname : ¬Alike h.name event)
    (hbody : ∀ statement ∈ h.body, ¬BeginsWith "on" event statement) :
    ∀ statement ∈ h.lines, opensHandler event statement = false := by
  intro statement hmem
  rcases List.mem_cons.mp hmem with rfl | hmem
  · exact Bool.eq_false_iff.mpr fun hopens => hname ((opensHandler_opening hevent).mp hopens)
  rcases List.mem_append.mp hmem with hmem | hmem
  · exact Bool.eq_false_iff.mpr fun hopens => hbody statement hmem (opensHandler_iff.mp hopens)
  · exact opensHandler_closing hevent (Option.mem_toList.mp hmem)

theorem flatMap_lines (before : List Written) (h : Written) (after : List Written) :
    (before ++ h :: after).flatMap lines = before.flatMap lines ++ h.opening ::
      (h.body ++ (h.closing.toList ++ after.flatMap lines)) := by
  rw [List.flatMap_append, List.flatMap_cons, lines, List.cons_append, List.append_assoc]

/-- What comes behind the statement that opens a handler. -/
theorem drop_lines (before : List Written) (h : Written) (after : List Written) :
    ((before ++ h :: after).flatMap lines).drop ((before.flatMap lines).length + 1) =
      h.body ++ (h.closing.toList ++ after.flatMap lines) := by
  rw [flatMap_lines, ← List.drop_drop, List.drop_left]
  rfl

/-- Nothing in handlers for other events opens one for this event. -/
theorem findIdx?_opensHandler (hevent : IsName event) (hapart : Apart event handlers)
    (hnames : ∀ h ∈ handlers, ¬Alike h.name event) :
    (handlers.flatMap lines).findIdx? (opensHandler event) = none := by
  refine List.findIdx?_eq_none_iff.mpr fun statement hmem => ?_
  obtain ⟨h, hh, hmem⟩ := List.mem_flatMap.mp hmem
  exact opensHandler_lines hevent (hnames h hh) (fun s hs => (hapart h hh s hs).1) _ hmem

/-- Only the last handler may have no end. -/
theorem InOrder.eq_nil_of_closing (horder : InOrder handlers) {before after : List Written}
    (hsplit : handlers = before ++ h :: after) (hclosing : h.closing = none) : after = [] := by
  by_contra hafter
  have hmem : h ∈ handlers.dropLast := by
    rw [hsplit, List.dropLast_append_of_ne_nil (List.cons_ne_nil h after),
      List.dropLast_cons_of_ne_nil hafter]
    exact List.mem_append_right _ List.mem_cons_self
  have hsome := horder h hmem
  rw [hclosing] at hsome
  exact Bool.false_ne_true hsome

/-- The first end for the event behind the opening of a handler for it is behind its body: the body
has none of its own, and what follows it is the end of the handler, or nothing at all. -/
theorem findIdx_endsHandler (hevent : IsName event) (hapart : Apart event handlers)
    (horder : InOrder handlers) {before after : List Written}
    (hsplit : handlers = before ++ h :: after) (hname : Alike h.name event) :
    (h.body ++ (h.closing.toList ++ after.flatMap lines)).findIdx (endsHandler event) =
      h.body.length := by
  have hbody : h.body.findIdx (endsHandler event) = h.body.length := by
    refine List.findIdx_eq_length.mpr fun statement hmem => ?_
    have hno := (hapart h (hsplit ▸ List.mem_append_right _ List.mem_cons_self) statement hmem).2
    exact Bool.eq_false_iff.mpr fun hends => hno (endsHandler_iff.mp hends)
  have hend : (h.closing.toList ++ after.flatMap lines).findIdx (endsHandler event) = 0 := by
    cases hclosing : h.closing with
    | some statement =>
        have hends := (endsHandler_closing hevent (Option.mem_def.mpr hclosing)).mpr hname
        rw [Option.toList_some, List.singleton_append, List.findIdx_cons, hends]
        rfl
    | none =>
        rw [horder.eq_nil_of_closing hsplit hclosing]
        rfl
  rw [List.findIdx_append, hbody, if_neg (Nat.lt_irrefl _), hend, Nat.zero_add]

/-- No handler for the event is found among those for others. -/
theorem handlerSpan?_none (hevent : IsName event) (hapart : Apart event handlers)
    (hnames : ∀ h ∈ handlers, ¬Alike h.name event) :
    handlerSpan? (handlers.flatMap lines) event = none := by
  rw [handlerSpan?, findIdx?_opensHandler hevent hapart hnames]
  rfl

/-- The first handler for the event is found, from behind the statement that opens it to the one
that ends it. -/
theorem handlerSpan?_first (hevent : IsName event) (hapart : Apart event handlers)
    (horder : InOrder handlers) {before after : List Written}
    (hsplit : handlers = before ++ h :: after) (hname : Alike h.name event)
    (hbefore : ∀ h' ∈ before, ¬Alike h'.name event) :
    let start := (before.flatMap lines).length + 1
    handlerSpan? (handlers.flatMap lines) event = some (start, start + h.body.length) := by
  intro start
  have hapartBefore : Apart event before := fun h' hh' =>
    hapart h' (hsplit ▸ List.mem_append_left _ hh')
  have hopens : (handlers.flatMap lines).findIdx? (opensHandler event) =
      some (before.flatMap lines).length := by
    rw [hsplit, flatMap_lines, List.findIdx?_append,
      findIdx?_opensHandler hevent hapartBefore hbefore, List.findIdx?_cons,
      if_pos ((opensHandler_opening hevent).mpr hname)]
    simp
  rw [handlerSpan?, hopens]
  show some (start, start + ((handlers.flatMap lines).drop start).findIdx _) = _
  rw [hsplit, drop_lines, findIdx_endsHandler hevent hapart horder hsplit hname]

/-- What is found between the ends of the first handler for the event is its body. -/
theorem handler?_first (hevent : IsName event) (hapart : Apart event handlers)
    (horder : InOrder handlers) {before after : List Written}
    (hsplit : handlers = before ++ h :: after) (hname : Alike h.name event)
    (hbefore : ∀ h' ∈ before, ¬Alike h'.name event) :
    handler? (handlers.flatMap lines) event = some h.body := by
  have hspan := handlerSpan?_first hevent hapart horder hsplit hname hbefore
  rw [handler?, hspan]
  show some (((handlers.flatMap lines).drop _).take _) = _
  rw [hsplit, drop_lines, Nat.add_sub_cancel_left, List.take_left]

end Written

end CardTalk.Script
