/-
How loop headers read.

The forms of a header are tried in their order, and the first of them, the one of `repeat N times`,
takes every header that ends in the word `time` or `times` (`timesForm_eq_none_iff`), whatever word
comes behind `repeat`.  Any other header of a loop with a condition or a variable gives back the
parts that it was made of: `ofHeader_iff`.
-/
import CardTalk.Proofs.Script.Handler
import CardTalk.Proofs.Script.Line

namespace CardTalk.Script.Loop

open Search Text

/-- Behind `repeat` and one blank comes the rest of a header. -/
theorem opening_eq {β : Type} {t : Text} (hne : t ≠ []) (ht : ∀ c ∈ t.head?, ¬isBlank c)
    (accept : Unit → Text → Option β) :
    opening β ("repeat ".toList ++ t) accept = accept () t := by
  obtain ⟨c, t, rfl⟩ := List.exists_cons_of_ne_nil hne
  have hparts : opening β ("repeat ".toList ++ c :: t) accept =
      word "repeat" β ("repeat ".toList ++ c :: t) fun _ t => blanks1 β t accept := rfl
  have hbehind : behind? "repeat" ("repeat ".toList ++ c :: t) = some (' ' :: c :: t) := rfl
  rw [hparts, word, hbehind, Option.bind_some, blanks1_eq rfl (ht c rfl)]

/-! ### Headers that end in `times` -/

/-- The word is `times` or `time`, in any case. -/
def IsTimes (w : Text) : Prop := Alike w "times" ∨ Alike w "time"

instance (w : Text) : Decidable (IsTimes w) := inferInstanceAs (Decidable (_ ∨ _))

theorem IsTimes.forall_not_isBlank {w : Text} (h : IsTimes w) : ∀ c ∈ w, ¬isBlank c := by
  rcases h with h | h
  · exact h.forall_not_isBlank (List.any_eq_false.mp (by decide))
  · exact h.forall_not_isBlank (List.any_eq_false.mp (by decide))

/-- What comes behind `repeat` in the form of `repeat N times`. -/
def timesRest : Search Loop := do
  let _ ← optional (do word "for"; blanks1)
  let (count, _) ← partUpTo do
    blanks1
    Search.or (word "times") (word "time")
    ending
  return times count

theorem timesForm_eq (t : Text) :
    timesForm.first? t = opening _ t fun _ t => timesRest.first? t := rfl

theorem ways_times :
    (Search.or (word "times") (word "time")).Ways fun t _ rest =>
      ∃ w, IsTimes w ∧ t = w ++ rest :=
  ((ways_word "times").or (ways_word "time")).congr fun t _ rest => by
    simp only [IsTimes, or_and_right, exists_or]

/-- The count of a loop, possibly behind the word `for`, ends before a last word `times` or
`time`. -/
theorem ways_timesRest :
    timesRest.Ways fun t loop rest => ∃ lead count passed w,
      t = lead ++ (count ++ (passed ++ (w ++ rest))) ∧
        (lead = [] ∨ ∃ v blanks, lead = v ++ blanks ∧ Alike v "for" ∧ blanks ≠ [] ∧
          ∀ c ∈ blanks, isBlank c) ∧
        (count ≠ [] ∧ ∀ c ∈ count, inLine c) ∧ (passed ≠ [] ∧ ∀ c ∈ passed, isBlank c) ∧
        IsTimes w ∧ (rest = [] ∨ rest = ['\n']) ∧ loop = .times count := by
  have hways := (ways_optional ((ways_word "for").bind fun _ => ways_blanks1)).bind fun _ =>
    (ways_partUpTo (ways_blanks1.bind fun _ => ways_times.bind fun _ => ways_ending)).bind
      fun r => Ways.pure (times r.1)
  refine Ways.congr (m := timesRest) hways fun t loop rest => ⟨?_, ?_⟩
  · rintro ⟨lead?, t', hlead, ⟨count, ⟨⟩⟩, _, ⟨_, rfl, hne, hcount, _, _,
      ⟨passed, hpassed, hblanks, rfl⟩, _, _, ⟨w, hw, rfl⟩, rfl, hend⟩, rfl, rfl⟩
    rcases hlead with ⟨_, -, _, _, ⟨v, hv, rfl⟩, blanks, hblanks', hall, rfl⟩ | ⟨-, rfl⟩
    · exact ⟨v ++ blanks, count, passed, w, (List.append_assoc v blanks _).symm,
        .inr ⟨v, blanks, rfl, hv, hblanks', hall⟩, ⟨hne, hcount⟩, ⟨hpassed, hblanks⟩, hw, hend, rfl⟩
    · exact ⟨[], count, passed, w, rfl, .inl rfl, ⟨hne, hcount⟩, ⟨hpassed, hblanks⟩, hw, hend, rfl⟩
  · rintro ⟨lead, count, passed, w, rfl, hlead, ⟨hne, hcount⟩, ⟨hpassed, hblanks⟩, hw, hend, rfl⟩
    rcases hlead with rfl | ⟨v, blanks, rfl, hv, hblanks', hall⟩
    · exact ⟨none, _, .inr ⟨rfl, rfl⟩, (count, ()), rest, ⟨_, rfl, hne, hcount, (), _,
        ⟨passed, hpassed, hblanks, rfl⟩, (), rest, ⟨w, hw, rfl⟩, rfl, hend⟩, rfl, rfl⟩
    · exact ⟨some (), _, .inl ⟨(), rfl, (), _, ⟨v, hv, List.append_assoc v blanks _⟩, blanks,
        hblanks', hall, rfl⟩, (count, ()), rest, ⟨_, rfl, hne, hcount, (), _,
        ⟨passed, hpassed, hblanks, rfl⟩, (), rest, ⟨w, hw, rfl⟩, rfl, hend⟩, rfl, rfl⟩

theorem eq_times_of_timesForm {header : Text} {loop : Loop}
    (h : timesForm.first? header = some loop) : ∃ count, loop = .times count := by
  obtain ⟨_, t, -, hrest⟩ := ((ways_word "repeat").bind fun _ => ways_blanks1).sound h
  obtain ⟨_, _, count, _, _, -, -, -, -, -, -, rfl⟩ := ways_timesRest.of_first? hrest
  exact ⟨count, rfl⟩

/-- The form of `repeat N times` reads all headers whose last word, the first one behind `repeat`
aside, is `times` or `time`. -/
theorem timesForm_eq_none_iff {t : Text} (ht : t ≠ []) (hhead : ∀ c ∈ t.head?, ¬isBlank c)
    (hline : '\n' ∉ t) :
    timesForm.first? ("repeat ".toList ++ t) = none ↔
      ∀ w, (words t).tail.getLast? = some w → ¬IsTimes w := by
  rw [timesForm_eq, opening_eq ht hhead, ways_timesRest.first?_eq_none_iff]
  constructor
  · intro hno w hw htimes
    obtain ⟨count, passed, rfl, hpassed, hblanks, -⟩ := getLast?_tail_words_iff.mp hw
    have hcount : count ≠ [] := by
      rintro rfl
      obtain ⟨b, passed, rfl⟩ := List.exists_cons_of_ne_nil hpassed
      exact hhead b rfl (hblanks b List.mem_cons_self)
    have hline' : ∀ c ∈ count, inLine c := fun c hc =>
      forall_inLine hline c (List.mem_append_left _ hc)
    exact hno (.times count) [] ⟨[], count, passed, w, by rw [List.append_nil]; rfl, .inl rfl,
      ⟨hcount, hline'⟩, ⟨hpassed, hblanks⟩, htimes, .inl rfl, rfl⟩
  · rintro hno loop rest ⟨lead, count, passed, w, rfl, -, -, ⟨hpassed, hblanks⟩, htimes, hend, -⟩
    rcases hend with rfl | rfl
    · refine hno w (getLast?_tail_words_iff.mpr ⟨lead ++ count, passed, ?_, hpassed, hblanks,
        htimes.forall_not_isBlank⟩) htimes
      rw [List.append_nil, List.append_assoc]
    · exact hline (by simp)

/-- The last word of the text is `times` or `time`. -/
def EndsInTimes (t : Text) : Prop := ∃ w, (words t).getLast? = some w ∧ IsTimes w

theorem timesForm_append_eq_none_iff {lead part : Text} (hlead : lead ≠ [])
    (hhead : ∀ c ∈ lead.head?, ¬isBlank c) (hline : '\n' ∉ lead) (hpart : '\n' ∉ part) :
    timesForm.first? ("repeat ".toList ++ (lead ++ ' ' :: part)) = none ↔ ¬EndsInTimes part := by
  have hhead' : ∀ c ∈ (lead ++ ' ' :: part).head?, ¬isBlank c := by
    rwa [List.head?_append_of_ne_nil _ hlead]
  have hline' : '\n' ∉ lead ++ ' ' :: part := by
    simp [hline, hpart]
  rw [timesForm_eq_none_iff (List.append_ne_nil_of_left_ne_nil hlead _) hhead' hline',
    getLast?_tail_words_append lead rfl]
  simp only [EndsInTimes, not_exists, not_and]

/-! ### Headers with a condition -/

theorem conditionForm_eq (t : Text) :
    conditionForm.first? t = opening _ t fun _ t =>
      span (Search.or (word "while") (word "until")) _ t fun form t => blanks1 _ t fun _ t =>
        rest1 _ t fun condition _ => some (ofCondition (lower form.1) condition) := rfl

theorem conditionForm_first? {form condition : Text} (hform : form = "while" ∨ form = "until")
    (h : IsPart condition) :
    conditionForm.first? ("repeat ".toList ++ (form ++ ' ' :: condition)) =
      some (ofCondition (lower form) condition) := by
  have hhead : ∀ c ∈ (form ++ ' ' :: condition).head?, ¬isBlank c := by
    rcases hform with rfl | rfl
    · rintro _ ⟨⟩; decide
    · rintro _ ⟨⟩; decide
  have hrest : (blanks1 Loop (' ' :: condition) fun _ t => rest1 _ t fun condition _ =>
      some (ofCondition (lower form) condition)) = some (ofCondition (lower form) condition) := by
    obtain ⟨c, t, rfl⟩ := List.exists_cons_of_ne_nil h.nonempty
    rw [blanks1_eq rfl (h.not_isBlank_head c rfl), rest1_eq h.nonempty (forall_inLine h.oneLine)]
  rw [conditionForm_eq, opening_eq (by simp) hhead, span_or]
  rcases hform with rfl | rfl
  · refine or_of_some ?_
    rw [span_word rfl, hrest]
  · have hno : ∀ accept,
        span (word "while") Loop ("until".toList ++ ' ' :: condition) accept = none := fun _ => rfl
    rw [Search.or, hno, span_word rfl]
    exact hrest

/-! ### Headers with a variable -/

/-- What stands between the bounds of a loop, with whether it says `down`. -/
def toward : Search Bool := do
  blanks1
  let down ← optional (do word "down"; blanks1)
  word "to"
  blanks1
  return down.isSome

theorem countingForm_eq (t : Text) :
    countingForm.first? t = opening _ t fun _ t => word "with" _ t fun _ t => blanks1 _ t fun _ t =>
      run1 isWord _ t fun var t => blanks _ t fun _ t => oneOf (· == '=') _ t fun _ t =>
        blanks _ t fun _ t => partUpTo toward _ t fun part t => rest1 _ t fun stop _ =>
          some (counting var part.1 stop part.2) := rfl

theorem ways_toward :
    toward.Ways fun t down rest => ∃ passed w blanks, (passed ≠ [] ∧ ∀ c ∈ passed, isBlank c) ∧
      Alike w "to" ∧ (blanks ≠ [] ∧ ∀ c ∈ blanks, isBlank c) ∧
      (down = false ∧ t = passed ++ (w ++ (blanks ++ rest)) ∨
        down = true ∧ ∃ d between, Alike d "down" ∧ (between ≠ [] ∧ ∀ c ∈ between, isBlank c) ∧
          t = passed ++ (d ++ (between ++ (w ++ (blanks ++ rest))))) := by
  have hways := ways_blanks1.bind fun _ =>
    (ways_optional ((ways_word "down").bind fun _ => ways_blanks1)).bind fun down =>
      (ways_word "to").bind fun _ => ways_blanks1.bind fun _ => Ways.pure down.isSome
  refine Ways.congr (m := toward) hways fun t down rest => ⟨?_, ?_⟩
  · rintro ⟨_, _, ⟨passed, hne, hpassed, rfl⟩, down?, t', hdown, _, _, ⟨w, hw, rfl⟩, _, _,
      ⟨blanks, hne', hblanks, rfl⟩, rfl, rfl⟩
    refine ⟨passed, w, blanks, ⟨hne, hpassed⟩, hw, ⟨hne', hblanks⟩, ?_⟩
    rcases hdown with ⟨_, rfl, _, _, ⟨d, hd, rfl⟩, between, hne'', hbetween, rfl⟩ | ⟨rfl, rfl⟩
    · exact .inr ⟨rfl, d, between, hd, ⟨hne'', hbetween⟩, rfl⟩
    · exact .inl ⟨rfl, rfl⟩
  · rintro ⟨passed, w, blanks, ⟨hne, hpassed⟩, hw, ⟨hne', hblanks⟩, hcases⟩
    rcases hcases with ⟨rfl, rfl⟩ | ⟨rfl, d, between, hd, ⟨hne'', hbetween⟩, rfl⟩
    · exact ⟨(), _, ⟨passed, hne, hpassed, rfl⟩, none, _, .inr ⟨rfl, rfl⟩, (), _, ⟨w, hw, rfl⟩, (),
        _, ⟨blanks, hne', hblanks, rfl⟩, rfl, rfl⟩
    · exact ⟨(), _, ⟨passed, hne, hpassed, rfl⟩, some (), _, .inl ⟨(), rfl, (), _, ⟨d, hd, rfl⟩,
        between, hne'', hbetween, rfl⟩, (), _, ⟨w, hw, rfl⟩, (), _,
        ⟨blanks, hne', hblanks, rfl⟩, rfl, rfl⟩

theorem toward_eq {β : Type} (t : Text) (accept : Bool → Text → Option β) :
    toward β t accept = blanks1 β t fun _ t => optional (do word "down"; blanks1) β t fun down t =>
      word "to" β t fun _ t => blanks1 β t fun _ t => accept down.isSome t := rfl

section

variable {β : Type} {stop : Text} (hstop : IsPart stop)

include hstop

theorem toward_to (accept : Bool → Text → Option β) :
    toward β (" to ".toList ++ stop) accept = accept false stop := by
  have hsplit : " to ".toList ++ stop = ' ' :: 't' :: 'o' :: ' ' :: stop := rfl
  have hdown : ∀ accept, (do word "down"; blanks1 : Search Unit) β ('t' :: 'o' :: ' ' :: stop)
      accept = none := fun _ => rfl
  have hbehind : behind? "to" ('t' :: 'o' :: ' ' :: stop) = some (' ' :: stop) := rfl
  obtain ⟨c, stop', rfl⟩ := List.exists_cons_of_ne_nil hstop.nonempty
  rw [hsplit, toward_eq, blanks1_eq rfl (by decide), optional_eq (hdown _), word, hbehind,
    Option.bind_some, blanks1_eq rfl (hstop.not_isBlank_head c rfl)]
  rfl

theorem toward_down {accept : Bool → Text → Option β} {b : β} (h : accept true stop = some b) :
    toward β (" down to ".toList ++ stop) accept = some b := by
  have hsplit : " down to ".toList ++ stop =
    ' ' :: 'd' :: ("own".toList ++ ' ' :: 't' :: 'o' :: ' ' :: stop) := rfl
  have hdown : behind? "down" ('d' :: ("own".toList ++ ' ' :: 't' :: 'o' :: ' ' :: stop)) =
    some (' ' :: 't' :: 'o' :: ' ' :: stop) := rfl
  have hto : behind? "to" ('t' :: 'o' :: ' ' :: stop) = some (' ' :: stop) := rfl
  have hread : (word "down" β ('d' :: ("own".toList ++ ' ' :: 't' :: 'o' :: ' ' :: stop))
      fun _ t => blanks1 β t fun _ t => word "to" β t fun _ t => blanks1 β t fun _ t =>
        accept true t) = some b := by
    obtain ⟨c, stop', rfl⟩ := List.exists_cons_of_ne_nil hstop.nonempty
    rw [word, hdown, Option.bind_some, blanks1_eq rfl (by decide), word, hto, Option.bind_some,
      blanks1_eq rfl (hstop.not_isBlank_head c rfl), h]
  rw [hsplit, toward_eq, blanks1_eq rfl (by decide)]
  exact or_of_some hread

end

/-- What blanks begin begins with a blank. -/
theorem isBlank_of_append_eq {blanks rest x y : Text} (hne : blanks ≠ [])
    (hblanks : ∀ c ∈ blanks, isBlank c) (h : blanks ++ rest = x ++ y) :
    ∀ c ∈ x.head?, isBlank c := by
  obtain ⟨b, blanks, rfl⟩ := List.exists_cons_of_ne_nil hne
  intro c hc
  obtain ⟨x, rfl⟩ := List.head?_eq_some_iff.mp hc
  exact (List.cons.inj h).1 ▸ hblanks b List.mem_cons_self

theorem not_isBlank_to : ∀ c ∈ ("to" : Text), ¬isBlank c := List.any_eq_false.mp (by decide)

theorem not_isBlank_down : ∀ c ∈ ("down" : Text), ¬isBlank c := List.any_eq_false.mp (by decide)

section

variable {start : Text} (hstart : IsPart start) (hto : ∀ w ∈ words start, ¬Alike w "to")
  (hdown : ∀ w, (words start).getLast? = some w → ¬Alike w "down")

include hstart hto hdown

/-- A bound without the word `to` that does not end in `down` is not left before its end. -/
theorem toward_within {β : Type} {front x z : Text} (hx : x ≠ []) (hsplit : start = front ++ x)
    (accept : Bool → Text → Option β) : toward β (x ++ ' ' :: z) accept = none := by
  have hlast := not_isBlank_of_mem_getLast? hstart.trimmed
  rw [hsplit, List.getLast?_append_of_ne_nil _ hx] at hlast
  refine Option.eq_none_iff_forall_ne_some.mpr fun found hfound => ?_
  obtain ⟨down, rest, ⟨passed, w, blanks, ⟨hne, hpassed⟩, hw, ⟨hblanks, hall⟩, hcases⟩, -⟩ :=
    ways_toward.sound hfound
  have hw' := hw.forall_not_isBlank not_isBlank_to
  rcases hcases with ⟨-, heq⟩ | ⟨-, d, between, hd, ⟨hbetween, hall'⟩, heq⟩
  · obtain ⟨after, rfl, hafter⟩ := within_of_append (b := ' ') rfl hlast hx hpassed hw' heq
    exact hto w (List.mem_of_mem_tail (mem_tail_words_iff.mpr ⟨front, passed, after, hsplit, hne,
      hpassed, hw', isBlank_of_append_eq hblanks hall hafter⟩)) hw
  · have hd' := hd.forall_not_isBlank not_isBlank_down
    obtain ⟨after, rfl, hafter⟩ := within_of_append (b := ' ') rfl hlast hx hpassed hd' heq
    by_cases hempty : after = []
    · rw [hempty, List.append_nil] at hsplit
      have hlastWord := getLast?_tail_words_iff.mpr ⟨front, passed, hsplit, hne, hpassed, hd'⟩
      exact hdown d (getLast?_words_of_tail hlastWord) hd
    · rw [← List.append_assoc, List.getLast?_append_of_ne_nil _ hempty] at hlast
      obtain ⟨after', rfl, hafter'⟩ :=
        within_of_append (b := ' ') rfl hlast hempty hall' hw' hafter.symm
      have hsplit' : start = front ++ passed ++ d ++ (between ++ (w ++ after')) := by
        rw [hsplit]
        simp only [List.append_assoc]
      exact hto w (List.mem_of_mem_tail (mem_tail_words_iff.mpr ⟨_, between, after', hsplit',
        hbetween, hall', hw', isBlank_of_append_eq hblanks hall hafter'⟩)) hw

/-- The variable and the first bound are read whole. -/
theorem countingForm_first? {var z : Text} {loop : Loop} (hvar : IsName var)
    (hstop : (toward _ (' ' :: z) fun down t => rest1 _ t fun stop _ =>
      some (counting var start stop down)) = some loop) :
    countingForm.first? ("repeat with ".toList ++ (var ++ (" = ".toList ++ (start ++ ' ' :: z)))) =
      some loop := by
  have hpart : (partUpTo toward _ (start ++ ' ' :: z) fun part t => rest1 _ t fun stop _ =>
      some (counting var part.1 stop part.2)) = some loop :=
    partUpTo_append hstart.nonempty (forall_inLine hstart.oneLine) hstop
      fun front x _ hx hsplit => toward_within hstart hto hdown hx hsplit _
  have hstartBlank : (' ' :: (start ++ ' ' :: z)).dropWhile isBlank = start ++ ' ' :: z := by
    obtain ⟨c, t, rfl⟩ := List.exists_cons_of_ne_nil hstart.nonempty
    exact List.dropWhile_cons_of_neg (hstart.not_isBlank_head c rfl)
  have hbound : (blanks _ (' ' :: (start ++ ' ' :: z)) fun _ t => partUpTo toward _ t fun part t =>
      rest1 _ t fun stop _ => some (counting var part.1 stop part.2)) = some loop :=
    blanks_of_some (hstartBlank.symm ▸ hpart)
  have hequals : (blanks _ (' ' :: '=' :: ' ' :: (start ++ ' ' :: z)) fun _ t =>
      oneOf (· == '=') _ t fun _ t => blanks _ t fun _ t => partUpTo toward _ t fun part t =>
        rest1 _ t fun stop _ => some (counting var part.1 stop part.2)) = some loop :=
    blanks_of_some hbound
  have hsplit : "repeat with ".toList ++ (var ++ (" = ".toList ++ (start ++ ' ' :: z))) =
    "repeat ".toList ++ ("with ".toList ++ (var ++ (' ' :: '=' :: ' ' :: (start ++ ' ' :: z)))) :=
      rfl
  have hbehind : behind? "with" ("with ".toList ++
      (var ++ (' ' :: '=' :: ' ' :: (start ++ ' ' :: z)))) =
    some (' ' :: (var ++ (' ' :: '=' :: ' ' :: (start ++ ' ' :: z)))) := rfl
  obtain ⟨c, var', hc⟩ := List.exists_cons_of_ne_nil hvar.1
  have hblank : ¬isBlank c := hvar.forall_not_isBlank c (hc ▸ List.mem_cons_self)
  have hspace : ∀ c ∈ (' ' :: '=' :: ' ' :: (start ++ ' ' :: z)).head?, ¬isWord c := by
    rintro _ ⟨⟩
    decide
  rw [hsplit, countingForm_eq, opening_eq (by simp) (by rintro _ ⟨⟩; decide), word, hbehind,
    Option.bind_some, hc, List.cons_append, blanks1_eq rfl hblank, ← List.cons_append,
    ← hc, run1_eq hvar.1 hvar.2 hspace, hequals]

end

/-! ### Headers of every form -/

section

variable {header : Text} {loop : Loop}

theorem ofHeader_of_timesForm (h : timesForm.first? header = some loop) :
    ofHeader header = loop := by
  simp only [ofHeader, List.findSome?_cons, h, Option.getD_some]

theorem ofHeader_of_countingForm (htimes : timesForm.first? header = none)
    (h : countingForm.first? header = some loop) : ofHeader header = loop := by
  simp only [ofHeader, List.findSome?_cons, htimes, h, Option.getD_some]

theorem ofHeader_of_conditionForm (htimes : timesForm.first? header = none)
    (hcounting : countingForm.first? header = none)
    (h : conditionForm.first? header = some loop) : ofHeader header = loop := by
  simp only [ofHeader, List.findSome?_cons, htimes, hcounting, h, Option.getD_some]

/-- A header gives another loop than the form of `repeat N times`, which comes first, exactly if it
does not end in `times` or `time` and the other forms give that loop. -/
theorem ofHeader_append_iff {lead part : Text} (hlead : lead ≠ [])
    (hhead : ∀ c ∈ lead.head?, ¬isBlank c) (hline : '\n' ∉ lead) (hpart : '\n' ∉ part)
    (hheader : header = "repeat ".toList ++ (lead ++ ' ' :: part))
    (hloop : ∀ count, loop ≠ .times count)
    (h : timesForm.first? header = none → ofHeader header = loop) :
    ofHeader header = loop ↔ ¬EndsInTimes part := by
  rw [← timesForm_append_eq_none_iff hlead hhead hline hpart, ← hheader]
  refine ⟨fun heq => Option.eq_none_iff_forall_ne_some.mpr fun loop' hloop' => ?_, h⟩
  obtain ⟨count, rfl⟩ := eq_times_of_timesForm hloop'
  exact hloop count (heq.symm.trans (ofHeader_of_timesForm hloop'))

end

theorem ofHeader_condition_iff {form condition : Text} (hform : form = "while" ∨ form = "until")
    (h : IsPart condition) :
    ofHeader ("repeat ".toList ++ (form ++ ' ' :: condition)) =
      ofCondition (lower form) condition ↔ ¬EndsInTimes condition := by
  have hword : form ≠ [] ∧ '\n' ∉ form ∧ ∀ c ∈ form.head?, ¬isBlank c := by
    rcases hform with rfl | rfl
    · refine ⟨by decide, by decide, ?_⟩
      rintro _ ⟨⟩
      decide
    · refine ⟨by decide, by decide, ?_⟩
      rintro _ ⟨⟩
      decide
  have hcounting : countingForm.first? ("repeat ".toList ++ (form ++ ' ' :: condition)) = none := by
    rcases hform with rfl | rfl
    · rfl
    · rfl
  have hloop : ∀ count, ofCondition (lower form) condition ≠ .times count := by
    intro count
    unfold ofCondition
    split
    · nofun
    · split <;> nofun
  exact ofHeader_append_iff hword.1 hword.2.2 hword.2.1 h.oneLine rfl hloop fun htimes =>
    ofHeader_of_conditionForm htimes hcounting (conditionForm_first? hform h)

/-- A header of a loop with a condition, or with a variable and bounds, gives back its parts
exactly if it does not end in the word `times` or `time`. -/
theorem ofHeader_iff {condition start stop var : Text} (hcondition : IsPart condition)
    (hvar : IsName var) (hstart : IsPart start) (hto : ∀ w ∈ words start, ¬Alike w "to")
    (hdown : ∀ w, (words start).getLast? = some w → ¬Alike w "down") (hstop : IsPart stop) :
    (ofHeader ("repeat while ".toList ++ condition) = .whileTrue condition ↔
      ¬EndsInTimes condition) ∧
    (ofHeader ("repeat until ".toList ++ condition) = .untilTrue condition ↔
      ¬EndsInTimes condition) ∧
    (ofHeader ("repeat with ".toList ++ (var ++ (" = ".toList ++
        (start ++ (" to ".toList ++ stop))))) = .counting var start stop false ↔
      ¬EndsInTimes stop) ∧
    (ofHeader ("repeat with ".toList ++ (var ++ (" = ".toList ++
        (start ++ (" down to ".toList ++ stop))))) = .counting var start stop true ↔
      ¬EndsInTimes stop) := by
  have hlead : ∀ between : Text, '\n' ∉ between →
      '\n' ∉ "with ".toList ++ (var ++ (" = ".toList ++ (start ++ between))) := by
    have hvarLine : '\n' ∉ var := fun h => absurd (hvar.2 '\n' h) (by decide)
    intro between hbetween
    simp [hvarLine, hstart.oneLine, hbetween]
  have hsplit : ∀ between : Text,
      "repeat with ".toList ++ (var ++ (" = ".toList ++ (start ++ (between ++ ' ' :: stop)))) =
        "repeat ".toList ++
          ("with ".toList ++ (var ++ (" = ".toList ++ (start ++ between))) ++ ' ' :: stop) := by
    intro between
    simp only [List.append_assoc]
    rfl
  refine ⟨?_, ?_, ?_, ?_⟩
  · exact ofHeader_condition_iff (.inl rfl) hcondition
  · exact ofHeader_condition_iff (.inr rfl) hcondition
  · refine ofHeader_append_iff (by simp) (by rintro _ ⟨⟩; decide) (hlead " to" (by decide))
      hstop.oneLine (hsplit " to") nofun fun htimes => ofHeader_of_countingForm htimes ?_
    refine countingForm_first? hstart hto hdown hvar ((toward_to hstop _).trans ?_)
    exact rest1_eq hstop.nonempty (forall_inLine hstop.oneLine) _
  · refine ofHeader_append_iff (by simp) (by rintro _ ⟨⟩; decide) (hlead " down to" (by decide))
      hstop.oneLine (hsplit " down to") nofun fun htimes => ofHeader_of_countingForm htimes ?_
    refine countingForm_first? hstart hto hdown hvar (toward_down hstop ?_)
    exact rest1_eq hstop.nonempty (forall_inLine hstop.oneLine) _

/-- A condition may end in a word that `times` is a part of, and a bound in a word that begins
with `to`. -/
theorem ofHeader_iff_similar :
    let condition : Text := "it < timestamp"
    let start : Text := "today"
    let stop : Text := "10 * dozen"
    IsPart condition ∧ IsName "i" ∧ IsPart start ∧ (∀ w ∈ words start, ¬Alike w "to") ∧
      (∀ w, (words start).getLast? = some w → ¬Alike w "down") ∧ IsPart stop ∧
      ofHeader "repeat while it < timestamp" = .whileTrue condition ∧
      ofHeader "repeat until it < timestamp" = .untilTrue condition ∧
      ofHeader "repeat with i = today to 10 * dozen" = .counting "i" start stop false ∧
      ofHeader "repeat with i = today down to 10 * dozen" = .counting "i" start stop true := by
  intro condition start stop
  have hcondition : IsPart condition := by decide
  have hvar : IsName "i" := by decide
  have hstart : IsPart start := by decide
  have hto : ∀ w ∈ words start, ¬Alike w "to" := by decide
  have hdown : ∀ w, (words start).getLast? = some w → ¬Alike w "down" := by
    rintro _ ⟨⟩
    decide
  have hstop : IsPart stop := by decide
  have hends : ¬EndsInTimes condition ∧ ¬EndsInTimes stop := by
    constructor
    · rintro ⟨_, ⟨⟩, h⟩
      exact absurd h (by decide)
    · rintro ⟨_, ⟨⟩, h⟩
      exact absurd h (by decide)
  obtain ⟨hwhile, huntil, hup, hdowns⟩ := ofHeader_iff hcondition hvar hstart hto hdown hstop
  exact ⟨hcondition, hvar, hstart, hto, hdown, hstop, hwhile.mpr hends.1, huntil.mpr hends.1,
    hup.mpr hends.2, hdowns.mpr hends.2⟩

/-- A loop with a condition that ends in `time` is read as a number of times. -/
theorem ofHeader_while_time :
    IsPart "it < the time" ∧
      ofHeader "repeat while it < the time" = .times "while it < the" :=
  ⟨by decide, by decide⟩

end CardTalk.Script.Loop
