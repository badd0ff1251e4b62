/-
Where a statement is split.

The scanner of the splitter has a place in the text: the string that is open, the character before
and how many parentheses are open (`Place`).  Read off the text, it is outside of both where the
strings so far are closed and, of the parentheses outside of them, as many are closed as are opened
from any point on (`isBare_pastAll_iff`): one that closes nothing does not count, so the number of
open ones is the most that any stretch up to here leaves open.

A separator is the keyword between blanks, and begins at such a place (`BeginsAt`).  A text is
divided at the first one (`Divides`).  A part in which none begins is passed, and where one does
its form reads the keyword and all the blanks that follow it; the blanks before it belong to it as
well, since the scanner is outside strings and parentheses on both sides of a blank or on neither.
-/
import CardTalk.Proofs.Expr.Quoting
import CardTalk.Proofs.Text.Ways
import Mathlib.Data.Nat.Find

namespace CardTalk

open Text

namespace Separator

/-! ### Places -/

theorem depthAfter_blank {b : Char} (hb : isBlank b) (depth : Nat) : depthAfter depth b = depth := by
  have hparens : b ≠ '(' ∧ b ≠ ')' :=
    forall_isBlank (P := fun b => b ≠ '(' ∧ b ≠ ')') (by decide +kernel) hb
  rw [depthAfter, if_neg hparens.1, if_neg hparens.2]

/-- Where the scanner stands. -/
structure Place where
  /-- The quote that is open. -/
  quote : Option Char := none
  /-- The character before. -/
  previous : Option Char := none
  /-- How many parentheses are open. -/
  depth : Nat := 0

namespace Place

/-- The place behind one more character. -/
def past (p : Place) (c : Char) : Place where
  quote := Quote.after p.quote p.previous c
  previous := some c
  depth := if Quote.covers p.quote p.previous c then p.depth else depthAfter p.depth c

/-- The place behind a text. -/
def pastAll (p : Place) (t : Text) : Place := t.foldl past p

/-- Outside strings and parentheses. -/
def IsBare (p : Place) : Prop := p.quote = none ∧ p.depth = 0

instance (p : Place) : Decidable p.IsBare := inferInstanceAs (Decidable (_ ∧ _))

theorem pastAll_cons (p : Place) (c : Char) (t : Text) :
    p.pastAll (c :: t) = (p.past c).pastAll t := rfl

theorem pastAll_append (p : Place) (t u : Text) :
    p.pastAll (t ++ u) = (p.pastAll t).pastAll u := List.foldl_append

/-- No blank is a quote that is open. -/
theorem not_isBlank_quote {p : Place} (h : ∀ q ∈ p.quote, ¬isBlank q) (t : Text) :
    ∀ q ∈ (p.pastAll t).quote, ¬isBlank q := by
  induction t generalizing p with
  | nil => exact h
  | cons c t ih =>
      refine ih fun q hq => ?_
      cases hopen : p.quote with
      | none =>
          obtain ⟨hopens, rfl⟩ : Quote.opens p.previous c ∧ c = q := by
            simpa [past, Quote.after, hopen] using hq
          exact Token.not_isBlank_of_opens hopens
      | some q' =>
          obtain ⟨-, rfl⟩ : ¬c = q' ∧ q' = q := by simpa [past, Quote.after, hopen] using hq
          exact h q' hopen

/-- A blank changes nothing where no quote is open. -/
theorem past_blank_of_closed {p : Place} (hquote : p.quote = none) {b : Char} (hb : isBlank b) :
    p.past b = ⟨none, some b, p.depth⟩ := by
  have hopens : ¬Quote.opens p.previous b := fun hopens => Token.not_isBlank_of_opens hopens hb
  simp [past, Quote.after, Quote.covers, hquote, hopens, depthAfter_blank hb]

/-- A blank leads from a place outside strings and parentheses to another one. -/
theorem IsBare.past {p : Place} (h : p.IsBare) {b : Char} (hb : isBlank b) : (p.past b).IsBare := by
  rw [past_blank_of_closed h.1 hb]
  exact ⟨rfl, h.2⟩

/-- Behind a blank the scanner is outside strings and parentheses only if it was before. -/
theorem IsBare.of_past {p : Place} (hopen : ∀ q ∈ p.quote, ¬isBlank q) {b : Char}
    (hb : isBlank b) (h : (p.past b).IsBare) : p.IsBare := by
  have hquote : p.quote = none := by
    cases hq : p.quote with
    | none => rfl
    | some q =>
        have hne : b ≠ q := by
          rintro rfl
          exact hopen b hq hb
        obtain ⟨hafter, -⟩ := h
        simp [Place.past, Quote.after, hq, hne] at hafter
  rw [past_blank_of_closed hquote hb] at h
  exact ⟨hquote, h.2⟩

end Place

/-! ### Passing a text -/

/-- Splitting from a place. -/
def splitFrom? (keyword : Text) (p : Place) (t : Text) : Option (Text × Text) :=
  split?.go keyword p.quote p.previous p.depth t

/-- A character is passed unless a separator begins there. -/
theorem splitFrom?_cons {keyword : Text} {p : Place} {c : Char} {rest : Text}
    (h : p.IsBare → isBlank c → (form keyword).rest? (c :: rest) = none) :
    splitFrom? keyword p (c :: rest) =
      (splitFrom? keyword (p.past c) rest).map fun r => (c :: r.1, r.2) := by
  unfold splitFrom? Place.past
  rw [split?.go]
  dsimp only
  by_cases hcovers : Quote.covers p.quote p.previous c
  · rw [if_pos hcovers, if_pos hcovers]
  · rw [if_neg hcovers, if_neg hcovers]
    by_cases hblank : p.depth = 0 ∧ isBlank c
    · obtain ⟨hdepth, hc⟩ := hblank
      have hquote : p.quote = none := by
        by_contra hopen
        exact hcovers (by simp [Quote.covers, Option.isSome_iff_ne_none, hopen])
      rw [if_pos (by simp [hdepth, hc]), h ⟨hquote, hdepth⟩ hc, depthAfter_blank hc]
    · rw [if_neg (by simpa using hblank)]

/-- A text is passed if no separator begins in it. -/
theorem splitFrom?_append {keyword : Text} {p : Place} {t tail : Text}
    (h : ∀ front c rest, t = front ++ c :: rest → (p.pastAll front).IsBare → isBlank c →
      (form keyword).rest? (c :: (rest ++ tail)) = none) :
    splitFrom? keyword p (t ++ tail) =
      (splitFrom? keyword (p.pastAll t) tail).map fun r => (t ++ r.1, r.2) := by
  induction t generalizing p with
  | nil => simp [Place.pastAll]
  | cons c t ih =>
      have hbehind := ih (p := p.past c) fun front d rest ht =>
        h (c :: front) d rest (by rw [ht, List.cons_append])
      rw [List.cons_append, splitFrom?_cons (p := p) (h [] c t rfl), hbehind, Option.map_map,
        Place.pastAll_cons]
      rfl

/-! ### Outside strings and parentheses -/

/-- A text that ends outside strings, with the characters that it has outside of them.  A string
goes from a quote that opens one to the next quote of its kind. -/
inductive Unquoted : Option Char → Text → Text → Prop
  | nil (previous : Option Char) : Unquoted previous [] []
  | char {previous : Option Char} {c : Char} {t plain : Text} (hc : ¬Quote.opens previous c)
      (ht : Unquoted (some c) t plain) : Unquoted previous (c :: t) (c :: plain)
  | string {previous : Option Char} {q : Char} {v t plain : Text} (hq : Quote.opens previous q)
      (hv : q ∉ v) (ht : Unquoted (some q) t plain) : Unquoted previous (q :: (v ++ q :: t)) plain

/-- No parenthesis is left open: from any point on, as many are closed as are opened. -/
def AllClosed (plain : Text) : Prop := ∀ u, u <:+ plain → u.count '(' ≤ u.count ')'

/-- The number of open parentheses is the most that are opened and not closed from a point on. -/
theorem foldl_depthAfter_le_iff {plain : Text} {n : Nat} :
    plain.foldl depthAfter 0 ≤ n ↔ ∀ u, u <:+ plain → u.count '(' ≤ u.count ')' + n := by
  -- one more character at the end is one more at the end of every suffix
  induction plain using List.reverseRecOn generalizing n with
  | nil => simp
  | append_singleton plain c ih =>
      have hsuffix : (∀ u, u <:+ plain ++ [c] → u.count '(' ≤ u.count ')' + n) ↔
          ∀ u, u <:+ plain → (u ++ [c]).count '(' ≤ (u ++ [c]).count ')' + n := by
        simp only [List.suffix_concat_iff]
        constructor
        · intro h u hu
          exact h _ (.inr ⟨u, rfl, hu⟩)
        · rintro h _ (rfl | ⟨u, rfl, hu⟩)
          · simp
          · exact h u hu
      rw [hsuffix, List.foldl_append, List.foldl_cons, List.foldl_nil, depthAfter]
      by_cases hopen : c = '('
      · subst hopen
        cases n with
        | zero =>
            constructor
            · intro h
              exact absurd h (by simp)
            · intro h
              exact absurd (h [] List.nil_suffix) (by simp)
        | succ n => simp [← Nat.add_assoc, ih]
      · by_cases hclose : c = ')'
        · subst hclose
          rw [if_neg hopen, if_pos rfl, Nat.sub_le_iff_le_add, ih]
          simp [Nat.add_assoc, Nat.add_comm 1]
        · rw [if_neg hopen, if_neg hclose, ih]
          simp [hopen, hclose]

theorem foldl_depthAfter_eq_zero_iff {plain : Text} :
    plain.foldl depthAfter 0 = 0 ↔ AllClosed plain := by
  rw [← Nat.le_zero, foldl_depthAfter_le_iff]
  rfl

/-! ### Places outside of both -/

namespace Place

/-- A character that opens no string is a character outside of strings. -/
theorem past_plain {previous : Option Char} {c : Char} (hc : ¬Quote.opens previous c)
    (depth : Nat) :
    past ⟨none, previous, depth⟩ c = ⟨none, some c, depthAfter depth c⟩ := by
  simp [past, Quote.after, Quote.covers, hc]

theorem past_opening {previous : Option Char} {q : Char} (hq : Quote.opens previous q)
    (depth : Nat) : past ⟨none, previous, depth⟩ q = ⟨some q, some q, depth⟩ := by
  simp [past, Quote.after, Quote.covers, hq]

/-- Inside a string nothing changes up to its closing quote. -/
theorem pastAll_inside {q : Char} {v : Text} (hv : q ∉ v) (previous : Option Char) (depth : Nat) :
    pastAll ⟨some q, previous, depth⟩ v = ⟨some q, v.getLast?.or previous, depth⟩ := by
  induction v generalizing previous with
  | nil => rfl
  | cons c v ih =>
      have hc : c ≠ q := fun h => hv (h ▸ List.mem_cons_self)
      have hpast : past ⟨some q, previous, depth⟩ c = ⟨some q, some c, depth⟩ := by
        simp [past, Quote.after, Quote.covers, hc]
      rw [pastAll_cons, hpast, ih fun h => hv (List.mem_cons_of_mem _ h),
        Quote.getLast?_or_cons c v previous]

/-- A string opens, goes on and closes again. -/
theorem pastAll_string {previous : Option Char} {q : Char} {v : Text}
    (hq : Quote.opens previous q) (hv : q ∉ v) (depth : Nat) (t : Text) :
    pastAll ⟨none, previous, depth⟩ (q :: (v ++ q :: t)) = pastAll ⟨none, some q, depth⟩ t := by
  have hclose : past ⟨some q, v.getLast?.or (some q), depth⟩ q = ⟨none, some q, depth⟩ := by
    simp [past, Quote.after, Quote.covers]
  rw [pastAll_cons, past_opening hq, pastAll_append, pastAll_inside hv, pastAll_cons, hclose]

end Place

/-- Behind such a text no quote is open, and the parentheses counted are those outside strings. -/
theorem Unquoted.pastAll {previous : Option Char} {t plain : Text}
    (h : Unquoted previous t plain) (depth : Nat) :
    (Place.pastAll ⟨none, previous, depth⟩ t).quote = none ∧
      (Place.pastAll ⟨none, previous, depth⟩ t).depth = plain.foldl depthAfter depth := by
  induction h generalizing depth with
  | nil previous => exact ⟨rfl, rfl⟩
  | char hc _ ih =>
      rw [Place.pastAll_cons, Place.past_plain hc, List.foldl_cons]
      exact ih _
  | string hq hv _ ih =>
      rw [Place.pastAll_string hq hv]
      exact ih depth

/-- Where no quote is open every string so far has its closing quote. -/
theorem exists_unquoted {previous : Option Char} {t : Text} {depth : Nat}
    (h : (Place.pastAll ⟨none, previous, depth⟩ t).quote = none) :
    ∃ plain, Unquoted previous t plain := by
  induction hn : t.length using Nat.strong_induction_on generalizing previous t depth with
  | _ n ih =>
      cases t with
      | nil => exact ⟨[], .nil previous⟩
      | cons c t =>
          by_cases hc : Quote.opens previous c
          · by_cases hmem : c ∈ t
            · obtain ⟨v, t, rfl, hv⟩ := List.eq_append_cons_of_mem hmem
              rw [Place.pastAll_string hc hv] at h
              obtain ⟨plain, hplain⟩ := ih t.length (by simp at hn; omega) h rfl
              exact ⟨plain, .string hc hv hplain⟩
            · rw [Place.pastAll_cons, Place.past_opening hc, Place.pastAll_inside hmem] at h
              exact nomatch h
          · rw [Place.pastAll_cons, Place.past_plain hc] at h
            obtain ⟨plain, hplain⟩ := ih t.length (by simp at hn; omega) h rfl
            exact ⟨c :: plain, .char hc hplain⟩

/-- The scanner is outside strings and parentheses where all of them are closed. -/
theorem isBare_pastAll_iff {t : Text} :
    (Place.pastAll {} t).IsBare ↔ ∃ plain, Unquoted none t plain ∧ AllClosed plain := by
  constructor
  · rintro ⟨hquote, hdepth⟩
    obtain ⟨plain, hplain⟩ := exists_unquoted hquote
    refine ⟨plain, hplain, foldl_depthAfter_eq_zero_iff.mp ?_⟩
    rw [← (hplain.pastAll 0).2]
    exact hdepth
  · rintro ⟨plain, hplain, hclosed⟩
    obtain ⟨hquote, hdepth⟩ := hplain.pastAll 0
    exact ⟨hquote, hdepth.trans (foldl_depthAfter_eq_zero_iff.mpr hclosed)⟩

/-! ### Separators -/

/-- The keyword in any case between blanks, at least one on either side. -/
def IsSeparator (keyword s : Text) : Prop :=
  ∃ passed w passed', s = passed ++ (w ++ passed') ∧ passed ≠ [] ∧ (∀ c ∈ passed, isBlank c) ∧
    Alike w keyword ∧ passed' ≠ [] ∧ ∀ c ∈ passed', isBlank c

/-- A separator begins at a position of a text, outside strings and parentheses. -/
structure BeginsAt (keyword t : Text) (i : Nat) : Prop where
  outside : ∃ plain, Unquoted none (t.take i) plain ∧ AllClosed plain
  separator : ∃ s, IsSeparator keyword s ∧ s <+: t.drop i

/-- A text is divided at its first separator, which has all the blanks around it. -/
structure Divides (keyword t before separator after : Text) : Prop where
  parts : t = before ++ (separator ++ after)
  isSeparator : IsSeparator keyword separator
  begins : BeginsAt keyword t before.length
  first : ∀ i < before.length, ¬BeginsAt keyword t i
  not_within : ∀ i, ¬BeginsAt keyword before i
  not_blank_before : ∀ c ∈ before.getLast?, ¬isBlank c
  not_blank_after : ∀ c ∈ after.head?, ¬isBlank c

variable {keyword : Text}

namespace IsSeparator

theorem exists_cons {s : Text} (h : IsSeparator keyword s) : ∃ b s', s = b :: s' ∧ isBlank b := by
  obtain ⟨passed, w, passed', rfl, hne, hpassed, -⟩ := h
  obtain ⟨b, passed, rfl⟩ := List.exists_cons_of_ne_nil hne
  exact ⟨b, _, rfl, hpassed b List.mem_cons_self⟩

/-- A blank before a separator belongs to it. -/
theorem cons {s : Text} (h : IsSeparator keyword s) {b : Char} (hb : isBlank b) :
    IsSeparator keyword (b :: s) := by
  obtain ⟨passed, w, passed', rfl, -, hpassed, hrest⟩ := h
  exact ⟨b :: passed, w, passed', rfl, List.cons_ne_nil b passed,
    List.forall_mem_cons.mpr ⟨hb, hpassed⟩, hrest⟩

/-- Blanks behind a separator belong to it. -/
theorem append {s blanks : Text} (h : IsSeparator keyword s) (hblanks : ∀ c ∈ blanks, isBlank c) :
    IsSeparator keyword (s ++ blanks) := by
  obtain ⟨passed, w, passed', rfl, hne, hpassed, hw, hne', hpassed'⟩ := h
  refine ⟨passed, w, passed' ++ blanks, by simp, hne, hpassed, hw, by simp [hne'], ?_⟩
  exact List.forall_mem_append.mpr ⟨hpassed', hblanks⟩

/-- What begins with a separator begins with one that has all the blanks behind it. -/
theorem exists_longest {s t : Text} (hs : IsSeparator keyword s) (ht : s <+: t) :
    ∃ s' after, IsSeparator keyword s' ∧ t = s' ++ after ∧ ∀ c ∈ after.head?, ¬isBlank c := by
  obtain ⟨rest, rfl⟩ := ht
  refine ⟨s ++ rest.takeWhile isBlank, rest.dropWhile isBlank,
    hs.append fun c hc => List.mem_takeWhile_imp hc, ?_, fun c hc => ?_⟩
  · rw [List.append_assoc, List.takeWhile_append_dropWhile]
  · have hno := List.head?_dropWhile_not isBlank rest
    rw [Option.mem_def.mp hc] at hno
    simpa using hno

end IsSeparator

/-- The ways to read a separator. -/
theorem ways_form (keyword : Text) :
    (form keyword).Ways fun t _ rest => ∃ s, IsSeparator keyword s ∧ t = s ++ rest :=
  (Search.ways_blanks1.bind fun _ =>
    (Search.ways_word keyword).bind fun _ => Search.ways_blanks1).congr fun t _ rest => by
    constructor
    · rintro ⟨_, _, ⟨passed, hne, hpassed, rfl⟩, _, _, ⟨w, hw, rfl⟩, passed', hne', hpassed', rfl⟩
      exact ⟨_, ⟨passed, w, passed', rfl, hne, hpassed, hw, hne', hpassed'⟩, by simp⟩
    · rintro ⟨_, ⟨passed, w, passed', rfl, hne, hpassed, hw, hne', hpassed'⟩, rfl⟩
      exact ⟨(), _, ⟨passed, hne, hpassed, by simp⟩, (), _, ⟨w, hw, rfl⟩, passed', hne', hpassed',
        rfl⟩

/-- Nothing is read where no separator begins. -/
theorem form_rest?_of_forall {t : Text} (h : ∀ s, IsSeparator keyword s → ¬s <+: t) :
    (form keyword).rest? t = none := by
  refine Option.eq_none_iff_forall_ne_some.mpr fun after hafter => ?_
  obtain ⟨_, rest, ⟨s, hs, rfl⟩, -⟩ := (ways_form keyword).sound hafter
  exact h s hs (List.prefix_append s rest)

section

variable (hne : keyword ≠ []) (htrimmed : trim keyword = keyword)

include hne htrimmed

/-- A word that is alike a trimmed keyword begins with no blank. -/
theorem not_isBlank_head_of_alike {w : Text} (h : Alike w keyword) (rest : Text) :
    ∀ c ∈ (w ++ rest).head?, ¬isBlank c := by
  obtain ⟨d, keyword, rfl⟩ := List.exists_cons_of_ne_nil hne
  obtain ⟨c, w, rfl⟩ := List.exists_cons_of_ne_nil (h.ne_nil hne)
  have hfold : fold c = fold d := (List.cons.inj h).1
  rintro _ ⟨⟩
  rw [← isBlank_fold, hfold, isBlank_fold]
  exact not_isBlank_head htrimmed

/-- A separator is read with all the blanks behind it. -/
theorem form_rest?_separator {s after : Text} (hs : IsSeparator keyword s)
    (hafter : ∀ c ∈ after.head?, ¬isBlank c) : (form keyword).rest? (s ++ after) = some after := by
  obtain ⟨passed, w, passed', rfl, hpassedne, hpassed, hw, hpassedne', hpassed'⟩ := hs
  have hform : ∀ t, (form keyword).rest? t = Search.blanks1 Text t fun _ t =>
      (Search.behind? keyword t).bind fun t => Search.blanks1 Text t fun _ rest => some rest :=
    fun t => rfl
  rw [hform, List.append_assoc, List.append_assoc]
  refine Search.blanks1_of_some hpassedne hpassed ?_ ?_
  · exact not_isBlank_head_of_alike hne htrimmed hw _
  · rw [Search.behind?_append hw, Option.bind_some]
    exact Search.blanks1_of_some hpassedne' hpassed' hafter rfl

/-- At a place outside strings and parentheses a separator separates. -/
theorem splitFrom?_separator {p : Place} (hp : p.IsBare) {s after : Text}
    (hs : IsSeparator keyword s) (hafter : ∀ c ∈ after.head?, ¬isBlank c) :
    splitFrom? keyword p (s ++ after) = some ([], after) := by
  have hrest := form_rest?_separator hne htrimmed hs hafter
  obtain ⟨b, s, rfl, hb⟩ := hs.exists_cons
  have hopens : ¬Quote.opens p.previous b := fun hopens => Token.not_isBlank_of_opens hopens hb
  have hcovers : Quote.covers p.quote p.previous b = false := by simp [Quote.covers, hp.1, hopens]
  rw [List.cons_append] at hrest ⊢
  rw [splitFrom?, split?.go, hcovers, hp.2, hb, hrest]
  rfl

end

/-! ### Positions of separators -/

/-- A separator begins where the scanner is outside strings and parentheses. -/
theorem beginsAt_append_iff {before rest : Text} :
    BeginsAt keyword (before ++ rest) before.length ↔
      (Place.pastAll {} before).IsBare ∧ ∃ s, IsSeparator keyword s ∧ s <+: rest := by
  rw [isBare_pastAll_iff]
  constructor
  · rintro ⟨houtside, hseparator⟩
    rw [List.take_left] at houtside
    rw [List.drop_left] at hseparator
    exact ⟨houtside, hseparator⟩
  · rintro ⟨houtside, hseparator⟩
    exact ⟨by rwa [List.take_left], by rwa [List.drop_left]⟩

namespace BeginsAt

theorem lt_length {t : Text} {i : Nat} (h : BeginsAt keyword t i) : i < t.length := by
  obtain ⟨s, hs, hprefix⟩ := h.separator
  obtain ⟨b, s, rfl, -⟩ := hs.exists_cons
  have hlength := hprefix.length_le
  rw [List.length_drop, List.length_cons] at hlength
  omega

/-- A separator begins at the same position whatever comes behind the text. -/
theorem append {t : Text} {i : Nat} (h : BeginsAt keyword t i) (rest : Text) :
    BeginsAt keyword (t ++ rest) i := by
  have hle := Nat.le_of_lt h.lt_length
  obtain ⟨s, hs, hprefix⟩ := h.separator
  refine ⟨?_, s, hs, ?_⟩
  · rw [List.take_append_of_le_length hle]
    exact h.outside
  · rw [List.drop_append_of_le_length hle]
    exact hprefix.trans (List.prefix_append _ _)

/-- A separator that begins behind a blank begins with the blank already. -/
theorem of_blank {before rest : Text} {b : Char} (hb : isBlank b)
    (h : BeginsAt keyword (before ++ b :: rest) (before.length + 1)) :
    BeginsAt keyword (before ++ b :: rest) before.length := by
  have hlength : before.length + 1 = (before ++ [b]).length := by simp
  rw [List.append_cons, hlength] at h
  obtain ⟨hbare, s, hs, hprefix⟩ := beginsAt_append_iff.mp h
  rw [Place.pastAll_append] at hbare
  have hquote := Place.not_isBlank_quote (p := {}) nofun before
  exact beginsAt_append_iff.mpr ⟨.of_past hquote hb hbare, b :: s, hs.cons hb,
    List.cons_prefix_cons.mpr ⟨rfl, hprefix⟩⟩

end BeginsAt

/-! ### The first separator -/

/-- A part of the text in which no separator begins is passed. -/
theorem split?_passes {before rest : Text}
    (h : ∀ i < before.length, ¬BeginsAt keyword (before ++ rest) i) :
    split? keyword (before ++ rest) =
      (splitFrom? keyword (Place.pastAll {} before) rest).map fun r => (before ++ r.1, r.2) := by
  refine splitFrom?_append (p := {}) fun front c behind hsplit hbare _ => ?_
  have hwhole : before ++ rest = front ++ c :: (behind ++ rest) := by rw [hsplit]; simp
  refine form_rest?_of_forall fun s hs hprefix => h front.length (by rw [hsplit]; simp) ?_
  rw [hwhole]
  exact beginsAt_append_iff.mpr ⟨hbare, s, hs, hprefix⟩

theorem split?_eq_none {t : Text} (h : ∀ i, ¬BeginsAt keyword t i) : split? keyword t = none := by
  have hpasses : split? keyword (t ++ []) = _ := split?_passes fun i _ => by
    rw [List.append_nil]
    exact h i
  rw [List.append_nil] at hpasses
  exact hpasses

theorem Divides.split? (hne : keyword ≠ []) (htrimmed : trim keyword = keyword)
    {t before separator after : Text} (h : Divides keyword t before separator after) :
    split? keyword t = some (before, after) := by
  obtain ⟨hbare, -⟩ := beginsAt_append_iff.mp (h.parts ▸ h.begins)
  have hpasses := split?_passes (h.parts ▸ h.first)
  rw [splitFrom?_separator hne htrimmed hbare h.isSeparator h.not_blank_after] at hpasses
  rw [h.parts, hpasses, Option.map_some, List.append_nil]

/-- A text in which a separator begins is divided at the first one. -/
theorem exists_divides {t : Text} {i : Nat} (h : BeginsAt keyword t i) :
    ∃ before separator after, Divides keyword t before separator after := by
  classical
  obtain ⟨n, hn, hfirst⟩ : ∃ n, BeginsAt keyword t n ∧ ∀ j < n, ¬BeginsAt keyword t j :=
    ⟨Nat.find ⟨i, h⟩, Nat.find_spec ⟨i, h⟩, fun j hj => Nat.find_min ⟨i, h⟩ hj⟩
  have hlength : (t.take n).length = n := List.length_take_of_le (Nat.le_of_lt hn.lt_length)
  obtain ⟨s, hs, hprefix⟩ := hn.separator
  obtain ⟨separator, after, hseparator, hdrop, hafter⟩ := hs.exists_longest hprefix
  have hparts : t = t.take n ++ (separator ++ after) := by rw [← hdrop, List.take_append_drop]
  refine ⟨t.take n, separator, after, hparts, hseparator, hlength.symm ▸ hn, hlength.symm ▸ hfirst,
    fun j hj => ?_, fun b hb hblank => ?_, hafter⟩
  · refine hfirst j (hlength ▸ hj.lt_length) ?_
    have hwhole := hj.append (t.drop n)
    rwa [List.take_append_drop] at hwhole
  · -- a blank at the end of the part before would begin an earlier separator
    obtain ⟨front, hfront⟩ := List.getLast?_eq_some_iff.mp hb
    have hn' : n = front.length + 1 := by rw [← hlength, hfront, List.length_append]; rfl
    obtain ⟨rest, rfl⟩ : ∃ rest, t = front ++ b :: rest := by
      refine ⟨t.drop n, ?_⟩
      rw [List.append_cons, ← hfront, List.take_append_drop]
    rw [hn'] at hn
    exact hfirst front.length (by omega) (hn.of_blank hblank)

/-- **A text is split at the first separator outside strings and parentheses, with all the blanks
around it, and not at all if there is none.** -/
theorem split?_divides (hne : keyword ≠ []) (htrimmed : trim keyword = keyword) (t : Text) :
    (split? keyword t = none ↔ ∀ i, ¬BeginsAt keyword t i) ∧
    ∀ before after, split? keyword t = some (before, after) ↔
      ∃ separator, Divides keyword t before separator after := by
  refine ⟨⟨fun h i hi => ?_, split?_eq_none⟩, fun before after => ⟨fun h => ?_, ?_⟩⟩
  · obtain ⟨before, separator, after, hdivides⟩ := exists_divides hi
    rw [hdivides.split? hne htrimmed] at h
    exact nomatch h
  · obtain ⟨i, hi⟩ : ∃ i, BeginsAt keyword t i := by
      by_contra hno
      rw [split?_eq_none (not_exists.mp hno)] at h
      exact nomatch h
    obtain ⟨before', separator, after', hdivides⟩ := exists_divides hi
    have hsame := (hdivides.split? hne htrimmed).symm.trans h
    obtain ⟨rfl, rfl⟩ := Prod.mk.inj (Option.some.inj hsame)
    exact ⟨separator, hdivides⟩
  · rintro ⟨separator, hdivides⟩
    exact hdivides.split? hne htrimmed

/-- The keyword stands in strings and within parentheses first, behind a parenthesis that closes
nothing and behind an apostrophe it separates. -/
theorem split?_divides_nested :
    let before : Text := "say(\"x to y\" to 1) ) Bob's 'a to b'"
    let t : Text := before ++ "  TO  c to d"
    ("to" : Text) ≠ [] ∧ trim "to" = "to" ∧ split? "to" t = some (before, ("c to d" : Text)) ∧
      Divides "to" t before "  TO  " "c to d" ∧
      split? "to" before = none ∧ ∀ i, ¬BeginsAt "to" before i := by
  intro before t
  have hne : ("to" : Text) ≠ [] := by decide
  have htrimmed : trim "to" = "to" := by decide
  have hsplit : split? "to" t = some (before, ("c to d" : Text)) := by decide
  have hbefore : split? "to" before = none := by decide
  obtain ⟨separator, hdivides⟩ := ((split?_divides hne htrimmed t).2 before "c to d").mp hsplit
  obtain rfl : separator = "  TO  " := by
    have hparts : t = before ++ (("  TO  " : Text) ++ ("c to d" : Text)) := rfl
    exact List.append_cancel_right (List.append_cancel_left (hdivides.parts.symm.trans hparts))
  have hnot := (split?_divides hne htrimmed before).1.mp hbefore
  exact ⟨hne, htrimmed, hsplit, hdivides, hbefore, hnot⟩

end Separator

end CardTalk
