/-
Where a search finds what it looks for.

The spots of a search are the fields that hold its term, card by card around from the
current one, and on each card in the order in which its objects are seen.  A cursor that
stands on a spot has the others ahead of it in this order, first those behind it on its own
card and then those of the other cards around: `ahead_spot`.  Those before it on its own
card are never ahead of it.
-/
import CardTalk.Find
import CardTalk.Proofs.Scene.Near
import CardTalk.Proofs.Text.Blank
import Mathlib.Data.List.Rotate
import Mathlib.Data.List.Nodup

namespace CardTalk

/-! ### Texts -/

namespace Text

theorem contains_iff {part t : Text} : contains part t = true ↔ part <:+: t := by
  induction t with
  | nil => rw [contains, List.isEmpty_iff, List.infix_nil]
  | cons c rest ih =>
      rw [contains, Bool.or_eq_true, ih, List.isPrefixOf_iff_prefix, List.infix_cons_iff]

end Text

/-! ### Spots -/

namespace Find

/-- An object is a field that holds a term in any case, and answers to the name that is asked
for, if one is. -/
def Holds (term : Text) (field : Option Text) (p : Part) : Prop :=
  ∃ content, p.content? = some content ∧
    (∀ name, field = some name → name ≠ [] → p.answersTo name = true) ∧
    Text.lower term <:+: Text.lower content

theorem holds_iff {term : Text} {field : Option Text} {p : Part} :
    holds (Text.lower term) (field.filter fun name => !name.isEmpty) p = true ↔
      Holds term field p := by
  unfold holds Holds
  cases hcontent : p.content? with
  | none => simp
  | some content =>
      have hfield : (field.filter fun name => !name.isEmpty).all (fun name => p.answersTo name) =
          true ↔ ∀ name, field = some name → name ≠ [] → p.answersTo name = true := by
        simp [Option.all_eq_true, Classical.or_iff_not_imp_left]
      simp [Text.contains_iff, ← hfield]

instance (term : Text) (field : Option Text) (p : Part) : Decidable (Holds term field p) :=
  decidable_of_iff _ holds_iff

/-- A field among the objects that are seen on a card. -/
structure Spot where
  card : Nat
  object : Nat
  part : Part
  deriving DecidableEq

/-- The cursor that stands on a spot. -/
def Spot.cursor (x : Spot) (term : Text) : Cursor :=
  { term := Text.lower term, card := some x.card, object := some x.object }

/-- All spots lie on one card, if there are any. -/
def OnOneCard (l : List Spot) : Prop := ∀ x ∈ l, ∀ y ∈ l, x.card = y.card

instance (l : List Spot) : Decidable (OnOneCard l) :=
  inferInstanceAs (Decidable (∀ x ∈ l, ∀ y ∈ l, _))

/-- The spot of a hit. -/
def Hit.spot (h : Hit) : Spot := ⟨h.card, h.object, h.part⟩

end Find

open Find

namespace Scene

/-- The objects seen on the card at a position: those of its background, then its own. -/
def seen (s : Scene) (i : Nat) : List Part :=
  match s.cards[i]? with
  | none => []
  | some c => ((s.backgroundOf c).elim [] fun b => b.2.parts) ++ c.parts

variable (s : Scene) (term : Text) (field : Option Text)

/-- The spots on a card, in the order in which its objects are seen. -/
def spotsOn (i : Nat) : List Spot :=
  ((s.seen i).zipIdx.filter fun r => decide (Holds term field r.1)).map fun r => ⟨i, r.2, r.1⟩

/-- The spots of all cards, from the current card on around. -/
def spots : List Spot :=
  ((List.range s.cards.length).rotate s.current).flatMap (s.spotsOn term field)

/-- The spots that a cursor for the term has ahead of it. -/
def ahead (c : Cursor) : List Spot :=
  (c.route s).flatMap fun r => (s.spotsOn term field r.1).filter fun x => r.2 ≤ x.object

/-- A hit is where the scene has its object. -/
def Refers (h : Hit) : Prop :=
  ∃ place, h.reference = s.refer place ∧ s.entity? place = some (.part h.part)

variable {s term field}

theorem mem_spotsOn {i : Nat} {x : Spot} :
    x ∈ s.spotsOn term field i ↔
      x.card = i ∧ (s.seen i)[x.object]? = some x.part ∧ Holds term field x.part := by
  simp only [spotsOn, List.mem_map, List.mem_filter, List.mem_zipIdx_iff_getElem?,
    decide_eq_true_eq]
  constructor
  · rintro ⟨r, ⟨hseen, hholds⟩, rfl⟩
    exact ⟨rfl, hseen, hholds⟩
  · rintro ⟨rfl, hseen, hholds⟩
    exact ⟨(x.part, x.object), ⟨hseen, hholds⟩, rfl⟩

theorem spotsOn_sorted (i : Nat) :
    (s.spotsOn term field i).Pairwise fun x y => x.object < y.object := by
  have hpositions : (s.seen i).zipIdx.Pairwise fun r r' => r.2 < r'.2 := by
    rw [← List.pairwise_map (f := Prod.snd) (R := (· < ·)), List.zipIdx_map_snd]
    exact List.pairwise_lt_range'
  exact List.pairwise_map.mpr (hpositions.filter _)

theorem spots_nodup : (s.spots term field).Nodup := by
  refine List.nodup_flatMap.mpr ⟨fun i _ => ?_, ?_⟩
  · refine (spotsOn_sorted i).imp fun hlt heq => ?_
    exact absurd (heq ▸ hlt) (Nat.lt_irrefl _)
  · have hcards : ((List.range s.cards.length).rotate s.current).Nodup :=
      List.nodup_rotate.mpr List.nodup_range
    refine hcards.imp fun hne x hx hx' => ?_
    exact hne ((mem_spotsOn.mp hx).1.symm.trans (mem_spotsOn.mp hx').1)

/-! ### What a search finds -/

theorem map_snd_mapIdx {α β : Type} (f : Nat → α → β) (l : List α) :
    (l.mapIdx fun k a => (f k a, a)).map Prod.snd = l := by
  refine List.ext_getElem? fun k => ?_
  rw [List.getElem?_map, List.getElem?_mapIdx, Option.map_map]
  exact Option.map_id'

/-- The objects seen on a card are placed where the scene has them. -/
theorem placedOn_ok {i : Nat} (hi : i < s.cards.length) :
    ∃ placed, s.placedOn i = .ok placed ∧ placed.map Prod.snd = s.seen i ∧
      ∀ r ∈ placed, s.entity? r.1 = some (.part r.2) := by
  have hcard : s.cards[i]? = some s.cards[i] := List.getElem?_eq_getElem hi
  have hcardAt : s.cardAt i = .ok s.cards[i] := by rw [cardAt, hcard]
  cases hbackground : s.backgroundOf s.cards[i] with
  | none =>
      refine ⟨s.cards[i].placed i, ?_, ?_, fun r hr => entity?_placed_card hcard hr⟩
      · simp only [placedOn, hcardAt, hbackground, bind, Except.bind, pure, Except.pure,
          List.nil_append]
      · rw [seen, hcard]
        simp only [hbackground, Option.elim_none, List.nil_append]
        exact map_snd_mapIdx _ _
  | some r =>
      obtain ⟨k, b⟩ := r
      refine ⟨b.placed k ++ s.cards[i].placed i, ?_, ?_, fun r hr => ?_⟩
      · simp only [placedOn, hcardAt, hbackground, bind, Except.bind, pure, Except.pure]
      · rw [seen, hcard, List.map_append]
        simp only [hbackground, Option.elim_some]
        rw [Background.placed, Card.placed, map_snd_mapIdx, map_snd_mapIdx]
      · rcases List.mem_append.mp hr with hbelow | hown
        · exact entity?_placed_background (backgroundOf_some hbackground) hbelow
        · exact entity?_placed_card hcard hown

theorem find?_zipIdx {α : Type} (p : α → Bool) (l : List α) (k : Nat) :
    (l.zipIdx k).find? (fun r => p r.1) =
      (l.findIdx? p).bind fun j => l[j]?.map fun a => (a, k + j) := by
  induction l generalizing k with
  | nil => rfl
  | cons a rest ih =>
      rw [List.zipIdx_cons, List.find?_cons, List.findIdx?_cons]
      by_cases ha : p a = true
      · simp [ha]
      · cases hrest : rest.findIdx? p with
        | none => simp [ha, ih, hrest]
        | some j => simp [ha, ih, hrest, Nat.add_assoc, Nat.add_comm 1 j]

theorem zipIdx_filter_le {α : Type} (l : List α) (first k : Nat) :
    ((l.zipIdx k).filter fun r => k + first ≤ r.2) = (l.drop first).zipIdx (k + first) := by
  induction l generalizing first k with
  | nil => simp
  | cons a rest ih =>
      cases first with
      | zero =>
          refine List.filter_eq_self.mpr fun r hr => ?_
          have hle : k ≤ r.2 := List.le_snd_of_mem_zipIdx hr
          simpa using hle
      | succ first =>
          have hrest := ih first (k + 1)
          rw [Nat.add_right_comm k 1 first] at hrest
          rw [List.zipIdx_cons, List.filter_cons_of_neg (by simp), List.drop_succ_cons]
          exact hrest

/-- The first spot on a card from a position on. -/
theorem head?_spotsOn (i first : Nat) :
    ((s.spotsOn term field i).filter fun x => first ≤ x.object).head? =
      (((s.seen i).drop first).findIdx? fun p => decide (Holds term field p)).bind fun k =>
        ((s.seen i).drop first)[k]?.map fun p => ⟨i, first + k, p⟩ := by
  have hfrom := zipIdx_filter_le (s.seen i) first 0
  simp only [Nat.zero_add] at hfrom
  have hswap : (s.spotsOn term field i).filter (fun x => first ≤ x.object) =
      ((((s.seen i).drop first).zipIdx first).filter fun r => decide (Holds term field r.1)).map
        fun r => ⟨i, r.2, r.1⟩ := by
    rw [← hfrom, List.filter_filter, spotsOn, List.filter_map, List.filter_filter]
    refine congrArg _ (List.filter_congr fun r _ => ?_)
    exact Bool.and_comm ..
  rw [hswap, List.head?_map, List.head?_filter,
    find?_zipIdx fun p => decide (Holds term field p)]
  cases ((s.seen i).drop first).findIdx? fun p => decide (Holds term field p) with
  | none => rfl
  | some k => simp only [Option.bind_some, Option.map_map, Function.comp_def]

theorem hitOn_ok (term : Text) (field : Option Text) {i : Nat} (hi : i < s.cards.length)
    (first : Nat) :
    ∃ hit?, hitOn s (Text.lower term) (field.filter fun name => !name.isEmpty) i first = .ok hit? ∧
      hit?.map Hit.spot = ((s.spotsOn term field i).filter fun x => first ≤ x.object).head? ∧
      ∀ hit, hit? = some hit → s.Refers hit := by
  obtain ⟨placed, hplaced, hseen, hentity⟩ := placedOn_ok hi
  have hholds : (fun r : Place × Part =>
      holds (Text.lower term) (field.filter fun name => !name.isEmpty) r.2) =
        (fun p => decide (Holds term field p)) ∘ Prod.snd :=
    funext fun r => Bool.eq_iff_iff.mpr (by rw [holds_iff]; exact decide_eq_true_iff.symm)
  refine ⟨((placed.drop first).findIdx?
    ((fun p => decide (Holds term field p)) ∘ Prod.snd)).bind fun k =>
      (placed.drop first)[k]?.bind fun r =>
        some { card := i, object := first + k, reference := s.refer r.1, part := r.2 }, ?_, ?_, ?_⟩
  · rw [hitOn, hplaced, hholds]
    rfl
  · rw [head?_spotsOn, ← hseen, ← List.map_drop, List.findIdx?_map]
    cases (placed.drop first).findIdx? ((fun p => decide (Holds term field p)) ∘ Prod.snd) with
    | none => rfl
    | some k =>
        rw [Option.bind_some, Option.bind_some, List.getElem?_map]
        cases (placed.drop first)[k]? with
        | none => rfl
        | some r => rfl
  · intro hit hhit
    obtain ⟨k, -, hk⟩ := Option.bind_eq_some_iff.mp hhit
    obtain ⟨r, hr, hit⟩ := Option.bind_eq_some_iff.mp hk
    obtain rfl := Option.some.inj hit
    have hmem : r ∈ placed := List.mem_of_mem_drop (List.mem_of_getElem? hr)
    exact ⟨r.1, rfl, hentity r hmem⟩

/-- A search finds the first spot that its cursor has ahead. -/
theorem next?_ok (field : Option Text) (c : Cursor) (hterm : c.term = Text.lower term) :
    ∃ hit?, c.next? s (field.filter fun name => !name.isEmpty) = .ok hit? ∧
      hit?.map Hit.spot = (s.ahead term field c).head? ∧
      ∀ hit, hit? = some hit → s.Refers hit := by
  have hroute : ∀ r ∈ c.route s, r.1 < s.cards.length := by
    intro r hr
    obtain ⟨step, hstep, rfl⟩ := List.mem_map.mp hr
    have hpos : 0 < s.cards.length := Nat.zero_lt_of_lt (List.mem_range.mp hstep)
    exact Nat.mod_lt _ hpos
  rw [Cursor.next?, ahead, hterm]
  generalize c.route s = route at hroute ⊢
  induction route with
  | nil => exact ⟨none, rfl, rfl, fun hit hnone => nomatch hnone⟩
  | cons r rest ih =>
      obtain ⟨hit?, hok, hspot, hrefers⟩ :=
        hitOn_ok term field (hroute r List.mem_cons_self) r.2
      rw [List.findSomeM?_cons, hok, List.flatMap_cons, List.head?_append, ← hspot]
      cases hit? with
      | some hit => exact ⟨some hit, rfl, rfl, hrefers⟩
      | none =>
          obtain ⟨hit?, hok, hspot, hrefers⟩ := ih fun r hr => hroute r (List.mem_cons_of_mem _ hr)
          exact ⟨hit?, hok, hspot, hrefers⟩

/-! ### The way around the cards -/

theorem route_eq {c : Cursor} {start : Nat} (hcard : c.card = some start) :
    c.route s = ((List.range s.cards.length).rotate start).map fun i =>
      (i, if i = start then (c.object.map (· + 1)).getD 0 else 0) := by
  have hrotate : (List.range s.cards.length).rotate start =
      (List.range s.cards.length).map fun step => (start + step) % s.cards.length := by
    refine List.ext_getElem (by simp) fun k hk hk' => ?_
    rw [List.getElem_rotate]
    simp [Nat.add_comm]
  rw [hrotate, List.map_map, Cursor.route, hcard]
  rfl

/-- A new cursor has all spots ahead. -/
theorem ahead_start (t : Text) :
    s.ahead term field { term := t, card := some s.current, object := none } =
      s.spots term field := by
  rw [ahead, route_eq rfl, List.flatMap_map, spots]
  refine congrArg (fun f => List.flatMap f _) (funext fun i => ?_)
  exact List.filter_eq_self.mpr fun x _ => by simp

/-- Whoever has come to a card on the way around goes on from there. -/
theorem rotate_of_split {n start : Nat} {before after : List Nat} {c : Nat}
    (h : (List.range n).rotate start = before ++ c :: after) :
    (List.range n).rotate c = c :: after ++ before := by
  have hrotate := congrArg (List.rotate · before.length) h
  simp only [List.rotate_rotate, List.rotate_append_length_eq] at hrotate
  have hlength := congrArg List.length h
  simp only [List.length_rotate, List.length_range, List.length_append, List.length_cons] at hlength
  have hc : ((List.range n).rotate start)[before.length]? = some c := by
    rw [h, List.getElem?_append_right (Nat.le_refl _), Nat.sub_self, List.getElem?_cons_zero]
  rw [List.getElem?_rotate (by simp; omega), List.length_range] at hc
  obtain ⟨hlt, rfl⟩ := List.getElem?_eq_some_iff.mp hc
  rw [List.getElem_range, Nat.add_comm]
  have hmod := List.rotate_mod (List.range n) (start + before.length)
  rw [List.length_range] at hmod
  rw [hmod, hrotate]
  simp [Nat.add_comm]

/-- Of the spots on its card a spot has those behind it to come. -/
theorem filter_behind {i : Nat} {before behind : List Spot} {x : Spot}
    (hcard : s.spotsOn term field i = before ++ x :: behind) :
    (s.spotsOn term field i).filter (fun y => x.object + 1 ≤ y.object) = behind := by
  have hsorted : (s.spotsOn term field i).Pairwise fun y z => y.object < z.object :=
    spotsOn_sorted i
  rw [hcard] at hsorted
  obtain ⟨-, hbehind, hbefore⟩ := List.pairwise_append.mp hsorted
  have hnone : before.filter (fun y => x.object + 1 ≤ y.object) = [] := by
    refine List.filter_eq_nil_iff.mpr fun y hy => ?_
    have hlt := hbefore y hy x List.mem_cons_self
    simp only [decide_eq_true_eq]
    omega
  have hall : behind.filter (fun y => x.object + 1 ≤ y.object) = behind :=
    List.filter_eq_self.mpr fun y hy =>
      decide_eq_true ((List.pairwise_cons.mp hbehind).1 y hy)
  rw [hcard, List.filter_append, hnone, List.filter_cons_of_neg (by simp), hall, List.nil_append]

/-- A cursor on a spot has ahead what comes behind the spot on its card, and then what is on
the other cards around. -/
theorem ahead_spot {k : Nat} {x : Spot} (hx : (s.spots term field)[k]? = some x) :
    ∃ others before after,
      s.spots term field = others ++ (before ++ x :: after) ∧
        k = others.length + before.length ∧
        (∀ y ∈ others, y.card ≠ x.card) ∧ (∀ y ∈ before, y.card = x.card) ∧
        s.ahead term field (x.cursor term) = after ++ others := by
  obtain ⟨c, hc, hxc⟩ := List.mem_flatMap.mp (List.mem_of_getElem? hx)
  obtain rfl : x.card = c := (mem_spotsOn.mp hxc).1
  obtain ⟨earlier, later, hround⟩ := List.append_of_mem hc
  obtain ⟨before, behind, hcard⟩ := List.append_of_mem hxc
  have hnodup : (earlier ++ x.card :: later).Nodup := by
    rw [← hround]
    exact List.nodup_rotate.mpr List.nodup_range
  have hothers : ∀ i ∈ later ++ earlier, i ≠ x.card := by
    intro i hi hcard
    have hfresh := (List.nodup_cons.mp (List.nodup_middle.mp hnodup)).1
    exact hfresh (hcard ▸ List.mem_append.mpr (List.mem_append.mp hi).symm)
  have hsplit : s.spots term field = earlier.flatMap (s.spotsOn term field) ++
      (before ++ x :: (behind ++ later.flatMap (s.spotsOn term field))) := by
    rw [spots, hround, List.flatMap_append, List.flatMap_cons, hcard]
    simp only [List.append_assoc, List.cons_append]
  refine ⟨_, before, _, hsplit, ?_, ?_, ?_, ?_⟩
  · have hxat : (s.spots term field)[k]? = (s.spots term field)[
        (earlier.flatMap (s.spotsOn term field)).length + before.length]? := by
      rw [hx, hsplit, ← List.append_assoc, ← List.length_append,
        List.getElem?_append_right (Nat.le_refl _), Nat.sub_self, List.getElem?_cons_zero]
    have hk := (List.getElem?_eq_some_iff.mp hx).1
    exact (List.getElem?_inj hk spots_nodup).mp hxat
  · intro y hy
    obtain ⟨i, hi, hyi⟩ := List.mem_flatMap.mp hy
    rw [(mem_spotsOn.mp hyi).1]
    exact hothers i (List.mem_append_right _ hi)
  · intro y hy
    have hyc : y ∈ s.spotsOn term field x.card := hcard ▸ List.mem_append_left _ hy
    exact (mem_spotsOn.mp hyc).1
  · -- on the card of the spot the order decides, on the others nothing is left out
    have hrest : ∀ i ∈ later ++ earlier, (s.spotsOn term field i).filter (fun y =>
        (if i = x.card then x.object + 1 else 0) ≤ y.object) = s.spotsOn term field i := by
      intro i hi
      rw [if_neg (hothers i hi)]
      exact List.filter_eq_self.mpr fun y _ => by simp
    rw [ahead, route_eq rfl, rotate_of_split hround, List.flatMap_map, List.cons_append,
      List.flatMap_cons, List.append_assoc, ← List.flatMap_append]
    refine congrArg₂ (· ++ ·) ?_ (List.flatMap_congr hrest)
    rw [if_pos rfl]
    exact filter_behind hcard

/-! ### The spots in turn -/

/-- On the way around, the spot at each position has the next one ahead of it first; the last
one has the first one, unless all are on one card. -/
theorem ahead_head? {k : Nat} {x : Spot} (hx : (s.spots term field)[k]? = some x)
    (hmore : k + 1 < (s.spots term field).length ∨ ¬OnOneCard (s.spots term field)) :
    (s.ahead term field (x.cursor term)).head? =
      (s.spots term field)[(k + 1) % (s.spots term field).length]? := by
  obtain ⟨others, before, after, hsplit, rfl, -, hbefore, hahead⟩ := ahead_spot hx
  rw [hahead]
  have hlength := congrArg List.length hsplit
  simp only [List.length_append, List.length_cons] at hlength
  cases after with
  | cons y rest =>
      have hnext : others.length + before.length + 1 - (others ++ before).length = 1 := by
        rw [List.length_append, Nat.add_sub_cancel_left]
      rw [Nat.mod_eq_of_lt (by simp at hlength; omega), hsplit, ← List.append_assoc,
        List.getElem?_append_right (by simp), hnext]
      rfl
  | nil =>
      have hspread : ¬OnOneCard (s.spots term field) := by
        rcases hmore with hlt | hspread
        · simp at hlength
          omega
        · exact hspread
      cases others with
      | nil =>
          have hone : ∀ y ∈ s.spots term field, y.card = x.card := by
            intro y hy
            rw [hsplit] at hy
            rcases List.mem_append.mp hy with hnone | hy
            · exact nomatch hnone
            · rcases List.mem_append.mp hy with hy | hy
              · exact hbefore y hy
              · exact congrArg Spot.card (List.mem_singleton.mp hy)
          exact absurd (fun y hy z hz => (hone y hy).trans (hone z hz).symm) hspread
      | cons y rest =>
          have hwrap : ((y :: rest).length + before.length + 1) %
              (s.spots term field).length = 0 := by
            rw [hlength, List.length_nil]
            exact Nat.mod_eq_zero_of_dvd (by simp [Nat.add_assoc])
          rw [hwrap, hsplit]
          rfl

/-- On a single card nothing is ahead of the last spot. -/
theorem ahead_last {k : Nat} {x : Spot} (hx : (s.spots term field)[k]? = some x)
    (hk : k + 1 = (s.spots term field).length) (hone : OnOneCard (s.spots term field)) :
    s.ahead term field (x.cursor term) = [] := by
  obtain ⟨others, before, after, hsplit, rfl, hothers, -, hahead⟩ := ahead_spot hx
  have hlength := congrArg List.length hsplit
  simp only [List.length_append, List.length_cons] at hlength
  have hafter : after = [] := List.length_eq_zero_iff.mp (by omega)
  have hnone : others = [] := by
    refine List.eq_nil_iff_forall_not_mem.mpr fun y hy => hothers y hy ?_
    refine hone y ?_ x (List.mem_of_getElem? hx)
    rw [hsplit]
    exact List.mem_append_left _ hy
  rw [hahead, hafter, hnone, List.append_nil]

theorem mem_ahead {c : Cursor} {x : Spot} (hx : x ∈ s.ahead term field c) :
    x.card < s.cards.length ∧ Holds term field x.part := by
  obtain ⟨r, -, hxr⟩ := List.mem_flatMap.mp hx
  obtain ⟨hcard, hseen, hholds⟩ := mem_spotsOn.mp (List.mem_filter.mp hxr).1
  refine ⟨Nat.lt_of_not_le fun hbeyond => ?_, hholds⟩
  rw [seen, ← hcard, List.getElem?_eq_none hbeyond] at hseen
  exact nomatch hseen

/-! ### Scenes with the same cards -/

/-- Two scenes have the same stack, backgrounds and cards. -/
structure SameCards (s s' : Scene) : Prop where
  stack : s'.stack = s.stack
  backgrounds : s'.backgrounds = s.backgrounds
  cards : s'.cards = s.cards

theorem SameCards.ahead_eq {s' : Scene} (h : s.SameCards s') (c : Cursor) :
    s'.ahead term field c = s.ahead term field c := by
  have hseen : s'.seen = s.seen := by
    funext i
    simp only [seen, backgroundOf, backgroundIndex?, h.backgrounds, h.cards]
  simp only [ahead, Cursor.route, spotsOn, hseen, h.cards]

theorem SameCards.entity?_eq {s' : Scene} (h : s.SameCards s') (place : Place) :
    s'.entity? place = s.entity? place := by
  cases place <;> simp only [entity?, h.stack, h.backgrounds, h.cards]

/-- A hit holds what its field held, when nothing but a move has happened since. -/
theorem SameCards.content_eq {s' : Scene} (h : s.SameCards s') {hit : Hit} (hhit : s.Refers hit)
    (hedits : s'.edits = s.edits ∨ ∃ i back, s'.edits = .moved i back :: s.edits)
    {content : Text} (hcontent : hit.part.content? = some content) :
    hit.content s' = content := by
  obtain ⟨place, hreference, hentity⟩ := hhit
  have hreferred : s'.referred? hit.reference = some (.part hit.part) := by
    rw [hreference, referred?, refer, ← hentity, ← h.entity?_eq]
    rcases hedits with hsame | ⟨i, back, hmoved⟩
    · rw [hsame, Nat.sub_self]
      rfl
    · rw [hmoved, List.length_cons, Nat.add_sub_cancel_left]
      rfl
  rw [Hit.content, hreferred]
  simp only [hcontent, Option.getD_some]

end Scene

end CardTalk
