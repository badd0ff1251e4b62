/-
Loading changes the copy and nothing else.

`Storage.Holds` says which data something in a storage stands for, and at which places.  Data
that have just been kept stand at new places, each mapping at its own, so what is laid on one
mapping of them is seen nowhere else (`Holds.frame`), and the mapping at a place comes to be
what `Data.overlayEntries` makes of it (`mergeInto_rebuilds`).  A load therefore leaves
everything that stood in the storage before it as it was.
-/
import CardTalk.Config.Storage
import CardTalk.Proofs.Data.Overlay
import Mathlib.Data.List.Perm.Subperm

namespace CardTalk.Storage

open Data

/-! ### What stands where -/

mutual

/-- Something stands for data, and the mappings among them stand at these places. -/
inductive Holds (s : Storage) : Slot → Data → List Nat → Prop
  | datum {d : Data} (h : ¬d.isMapping) : Holds s (.datum d) d []
  | place {p : Nat} {table : Table Slot} {entries : Table Data} {places : List Nat}
      (hp : s[p]? = some table) (h : HoldsEntries s table entries places) :
      Holds s (.place p) (.mapping entries) (p :: places)

/-- Entries stand for entries, and the mappings among them stand at these places. -/
inductive HoldsEntries (s : Storage) : Table Slot → Table Data → List Nat → Prop
  | nil : HoldsEntries s [] [] []
  | cons {name : Text} {slot : Slot} {d : Data} {table : Table Slot} {entries : Table Data}
      {ps qs : List Nat} (hd : Holds s slot d ps) (h : HoldsEntries s table entries qs) :
      HoldsEntries s ((name, slot) :: table) ((name, d) :: entries) (ps ++ qs)

end

variable {s s' s'' : Storage}

/-- Every place of the first storage has the same entries in the second. -/
def Extends (s s' : Storage) : Prop :=
  ∀ (p : Nat) (table : Table Slot), s[p]? = some table → s'[p]? = some table

theorem Extends.refl (s : Storage) : Extends s s := fun _ _ h => h

theorem Extends.trans (h : Extends s s') (h' : Extends s' s'') : Extends s s'' :=
  fun p table hp => h' p table (h p table hp)

theorem Extends.length_le (h : Extends s s') : s.length ≤ s'.length := by
  refine Nat.le_of_not_lt fun hlt => ?_
  have hkept := h _ _ (List.getElem?_eq_getElem hlt)
  rw [List.getElem?_eq_none (Nat.le_refl _)] at hkept
  exact nomatch hkept

mutual

/-- What stands at other places than those that have changed stands there still. -/
theorem Holds.frame : ∀ {slot : Slot} {d : Data} {places : List Nat}, Holds s slot d places →
    (∀ p ∈ places, ∀ table : Table Slot, s[p]? = some table → s'[p]? = some table) →
      Holds s' slot d places
  | _, _, _, .datum h, _ => .datum h
  | _, _, _, .place hp h, hkept => .place (hkept _ List.mem_cons_self _ hp)
      (h.frame fun p hp => hkept p (List.mem_cons_of_mem _ hp))

theorem HoldsEntries.frame : ∀ {table : Table Slot} {entries : Table Data} {places : List Nat},
    HoldsEntries s table entries places →
    (∀ p ∈ places, ∀ table, s[p]? = some table → s'[p]? = some table) →
      HoldsEntries s' table entries places
  | _, _, _, .nil, _ => .nil
  | _, _, _, .cons hd h, hkept => .cons (hd.frame fun p hp => hkept p (List.mem_append_left _ hp))
      (h.frame fun p hp => hkept p (List.mem_append_right _ hp))

end

mutual

theorem Holds.lt : ∀ {slot : Slot} {d : Data} {places : List Nat}, Holds s slot d places →
    ∀ p ∈ places, p < s.length
  | _, _, _, .datum _, _, hp => nomatch hp
  | _, _, _, .place hplace h, p, hp => by
      rcases List.mem_cons.mp hp with rfl | hp
      · exact (List.getElem?_eq_some_iff.mp hplace).1
      · exact h.lt p hp

theorem HoldsEntries.lt : ∀ {table : Table Slot} {entries : Table Data} {places : List Nat},
    HoldsEntries s table entries places → ∀ p ∈ places, p < s.length
  | _, _, _, .cons hd h, p, hp => by
      rcases List.mem_append.mp hp with hp | hp
      · exact hd.lt p hp
      · exact h.lt p hp

end

theorem Holds.extends {slot : Slot} {d : Data} {places : List Nat} (h : Holds s slot d places)
    (hextends : Extends s s') : Holds s' slot d places :=
  h.frame fun p _ => hextends p

theorem Holds.exists_table {p : Nat} {entries : Table Data} {places : List Nat}
    (h : Holds s (.place p) (.mapping entries) places) :
    ∃ table others, places = p :: others ∧ s[p]? = some table ∧
      HoldsEntries s table entries others := by
  cases h with
  | place hp h => exact ⟨_, _, rfl, hp, h⟩

/-! ### Reading -/

@[simp]
theorem readWithin?_datum (n : Nat) (d : Data) : s.readWithin? n (.datum d) = some d := by
  cases n <;> rfl

@[simp]
theorem read?_datum (d : Data) : s.read? (.datum d) = some d := readWithin?_datum _ d

mutual

theorem Holds.readWithin? : ∀ {slot : Slot} {d : Data} {places : List Nat},
    Holds s slot d places → ∀ {n : Nat}, places.length ≤ n → s.readWithin? n slot = some d
  | _, _, _, .datum _, n, _ => readWithin?_datum n _
  | _, _, _, .place _ _, 0, hn => nomatch hn
  | _, _, _, .place hp h, n + 1, hn => by
      rw [Storage.readWithin?, hp, Option.bind_eq_bind, Option.bind_some,
        h.readWithin? (Nat.le_of_succ_le_succ hn)]
      rfl

theorem HoldsEntries.readWithin? : ∀ {table : Table Slot} {entries : Table Data}
    {places : List Nat}, HoldsEntries s table entries places → ∀ {n : Nat}, places.length ≤ n →
      (table.mapM fun e => do return (e.1, ← s.readWithin? n e.2)) = some entries
  | _, _, _, .nil, _, _ => rfl
  | _, _, _, .cons hd h, n, hn => by
      rw [List.length_append] at hn
      rw [List.mapM_cons, hd.readWithin? (by omega), h.readWithin? (by omega)]
      rfl

end

/-- Where each mapping stands at its own place, no more of them are inside each other than the
storage has. -/
theorem Holds.read? {slot : Slot} {d : Data} {places : List Nat} (h : Holds s slot d places)
    (hnodup : places.Nodup) : s.read? slot = some d := by
  have hsub : places ⊆ List.range s.length := fun p hp => List.mem_range.mpr (h.lt p hp)
  have hlength := (List.subperm_of_subset hnodup hsub).length_le
  rw [List.length_range] at hlength
  exact h.readWithin? hlength

theorem mapM_of_some {α β : Type} {f g : α → Option β}
    (h : ∀ a b, f a = some b → g a = some b) :
    ∀ {l : List α} {bs : List β}, l.mapM f = some bs → l.mapM g = some bs
  | [], _, hbs => hbs
  | a :: l, bs, hbs => by
      rw [List.mapM_cons] at hbs ⊢
      obtain ⟨b, hb, hrest⟩ := Option.bind_eq_some_iff.mp hbs
      obtain ⟨bs', hbs', hcons⟩ := Option.bind_eq_some_iff.mp hrest
      rw [h a b hb, Option.bind_eq_bind, Option.bind_some, mapM_of_some h hbs']
      exact hcons

theorem Extends.readWithin? (h : Extends s s') :
    ∀ {n n' : Nat}, n ≤ n' → ∀ {slot : Slot} {d : Data},
      s.readWithin? n slot = some d → s'.readWithin? n' slot = some d
  | n, n', _, .datum _, _, hread => by
      rw [readWithin?_datum] at hread ⊢
      exact hread
  | n + 1, n' + 1, hn, .place p, d, hread => by
      obtain ⟨table, hp, hrest⟩ := Option.bind_eq_some_iff.mp hread
      obtain ⟨entries, hentries, hd⟩ := Option.bind_eq_some_iff.mp hrest
      have hentries' : (table.mapM fun e => do return (e.1, ← s'.readWithin? n' e.2)) =
          some entries := by
        refine mapM_of_some (fun e e' he => ?_) hentries
        obtain ⟨d', hd', he'⟩ := Option.bind_eq_some_iff.mp he
        rw [h.readWithin? (Nat.le_of_succ_le_succ hn) hd']
        exact he'
      rw [Storage.readWithin?, h p table hp, Option.bind_eq_bind, Option.bind_some, hentries']
      exact hd

/-- What can be read can be read in every storage that has the same entries and more. -/
theorem Extends.read? (h : Extends s s') {slot : Slot} {d : Data} (hread : s.read? slot = some d) :
    s'.read? slot = some d :=
  h.readWithin? h.length_le hread

/-! ### Keeping -/

theorem extends_append (s : Storage) (table : Table Slot) : Extends s (s ++ [table]) :=
  fun p table' hp => by
    rw [List.getElem?_append_left (List.getElem?_eq_some_iff.mp hp).1, hp]

mutual

/-- What is kept stands at new places, each mapping at its own. -/
theorem keep_holds : ∀ (s : Storage) (d : Data), Extends s (s.keep d).2 ∧
    ∃ places, Holds (s.keep d).2 (s.keep d).1 d places ∧ places.Nodup ∧
      ∀ p ∈ places, s.length ≤ p
  | s, .value _ | s, .list _ =>
    ⟨.refl s, [], .datum Bool.false_ne_true, List.nodup_nil, fun _ hp => nomatch hp⟩
  | s, .mapping entries => by
      obtain ⟨hextends, places, hholds, hnodup, hnew⟩ := keepEntries_holds s entries
      obtain ⟨table, s₁, hkeep⟩ : ∃ table s₁, s.keepEntries entries = (table, s₁) := ⟨_, _, rfl⟩
      rw [hkeep] at hextends hholds
      rw [keep, hkeep]
      dsimp only
      have hlast : (s₁ ++ [table])[s₁.length]? = some table := List.getElem?_concat_length
      have hadd := extends_append s₁ table
      refine ⟨hextends.trans hadd, s₁.length :: places, .place hlast ?_, ?_, ?_⟩
      · exact hholds.frame fun p _ => hadd p
      · exact List.nodup_cons.mpr ⟨fun hmem => Nat.lt_irrefl _ (hholds.lt _ hmem), hnodup⟩
      · intro p hp
        rcases List.mem_cons.mp hp with rfl | hp
        · exact hextends.length_le
        · exact hnew p hp

theorem keepEntries_holds : ∀ (s : Storage) (entries : List (Text × Data)),
    Extends s (s.keepEntries entries).2 ∧ ∃ places,
      HoldsEntries (s.keepEntries entries).2 (s.keepEntries entries).1 entries places ∧
        places.Nodup ∧ ∀ p ∈ places, s.length ≤ p
  | s, [] => ⟨.refl s, [], .nil, List.nodup_nil, fun _ hp => nomatch hp⟩
  | s, (name, d) :: rest => by
      obtain ⟨hextends, ps, hd, hps, hnew⟩ := keep_holds s d
      obtain ⟨hextends', qs, hholds, hqs, hnew'⟩ := keepEntries_holds (s.keep d).2 rest
      rw [keepEntries]
      refine ⟨hextends.trans hextends', ps ++ qs, .cons (hd.extends hextends') hholds, ?_, ?_⟩
      · refine List.nodup_append.mpr ⟨hps, hqs, ?_⟩
        rintro p hp _ hq rfl
        exact absurd (hd.lt p hp) (Nat.not_lt.mpr (hnew' p hq))
      · intro p hp
        rcases List.mem_append.mp hp with hp | hp
        · exact hnew p hp
        · exact Nat.le_trans hextends.length_le (hnew' p hp)

end

/-! ### Merging -/

/-- What stands under a name of a table, and at which places; the other entries stay when
something else is put there. -/
structure HoldsAt (s : Storage) (table : Table Slot) (entries : Table Data) (name : Text)
    (old rest : List Nat) : Prop where
  found : (Table.get? table name = none ∧ Table.get? entries name = none) ∨
    ∃ slot d, Table.get? table name = some slot ∧ Table.get? entries name = some d ∧
      Holds s slot d old
  put : ∀ {s' : Storage} {slot : Slot} {d : Data} {new : List Nat},
    (∀ p ∈ rest, ∀ table : Table Slot, s[p]? = some table → s'[p]? = some table) →
      Holds s' slot d new → ∃ places, places.Perm (new ++ rest) ∧
        HoldsEntries s' (Table.put table name slot) (Table.put entries name d) places

theorem HoldsEntries.holdsAt {table : Table Slot} {entries : Table Data} {places : List Nat}
    (h : HoldsEntries s table entries places) (name : Text) :
    ∃ old rest, places.Perm (old ++ rest) ∧ HoldsAt s table entries name old rest := by
  induction table generalizing entries places with
  | nil =>
      cases h
      refine ⟨[], [], .refl _, .inl ⟨rfl, rfl⟩, fun _ hd => ?_⟩
      exact ⟨_, .refl _, .cons hd .nil⟩
  | cons e table ih =>
      cases h with
      | @cons other slot d _ entries ps qs hd h =>
          by_cases hname : other = name
          · subst hname
            refine ⟨ps, qs, .refl _, .inr ⟨slot, d, ?_, ?_, hd⟩, fun hkept hd' => ?_⟩
            · rw [Table.get?_cons, if_pos rfl]
            · rw [Table.get?_cons, if_pos rfl]
            · rw [Table.put, Table.put, if_pos rfl, if_pos rfl]
              exact ⟨_, .refl _, .cons hd' (h.frame hkept)⟩
          · obtain ⟨old, rest, hperm, hat⟩ := ih h
            have hswap : ∀ others, (ps ++ (others ++ rest)).Perm (others ++ (ps ++ rest)) :=
              fun others => List.perm_append_comm_assoc ps others rest
            refine ⟨old, ps ++ rest, (hperm.append_left ps).trans (hswap old), ?_, ?_⟩
            · rw [Table.get?_cons, Table.get?_cons, if_neg fun heq => hname heq.symm,
                if_neg fun heq => hname heq.symm]
              exact hat.found
            · intro s' slot' d' new hkept hd'
              obtain ⟨places, hplaces, hentries⟩ :=
                hat.put (fun p hp => hkept p (List.mem_append_right _ hp)) hd'
              rw [Table.put, Table.put, if_neg hname, if_neg hname]
              refine ⟨ps ++ places, (hplaces.append_left ps).trans (hswap new), .cons ?_ hentries⟩
              exact hd.frame fun p hp => hkept p (List.mem_append_left _ hp)

/-- What stood at some places has come to stand for other data.  It stands at those places and
at new ones, and everything else is as it was. -/
structure Rebuilt (s : Storage) (places : List Nat) (s' : Storage) (slot : Slot) (d : Data) :
    Prop where
  longer : s.length ≤ s'.length
  others : ∀ p ∉ places, ∀ table : Table Slot, s[p]? = some table → s'[p]? = some table
  stands : ∃ places', Holds s' slot d places' ∧ places'.Nodup ∧
    ∀ p ∈ places', p ∈ places ∨ s.length ≤ p

theorem rebuilt_keep (s : Storage) (d : Data) : Rebuilt s [] (s.keep d).2 (s.keep d).1 d := by
  obtain ⟨hextends, places, hholds, hnodup, hnew⟩ := keep_holds s d
  exact ⟨hextends.length_le, fun p _ => hextends p, places, hholds, hnodup,
    fun p hp => .inr (hnew p hp)⟩

/-- One step after the other. -/
theorem Rebuilt.trans {places : List Nat} {slot slot' : Slot} {d d' : Data}
    (h : Rebuilt s places s' slot d)
    (hnext : ∀ {places' : List Nat}, Holds s' slot d places' → places'.Nodup →
      Rebuilt s' places' s'' slot' d') : Rebuilt s places s'' slot' d' := by
  obtain ⟨places', hholds, hnodup, hwhere⟩ := h.stands
  have h' := hnext hholds hnodup
  obtain ⟨places'', hholds', hnodup', hwhere'⟩ := h'.stands
  refine ⟨Nat.le_trans h.longer h'.longer, fun p hp table htable => ?_, places'', hholds', hnodup',
    fun p hp => ?_⟩
  · have hlt : p < s.length := (List.getElem?_eq_some_iff.mp htable).1
    refine h'.others p (fun hmem => ?_) table (h.others p hp table htable)
    rcases hwhere p hmem with hmem | hge
    · exact hp hmem
    · exact absurd hlt (Nat.not_lt.mpr hge)
  · rcases hwhere' p hp with hmem | hge
    · exact hwhere p hmem
    · exact .inr (Nat.le_trans h.longer hge)

/-- The mapping at a place after what stands under one of its names has been rebuilt. -/
theorem HoldsAt.rebuilt {table : Table Slot} {entries : Table Data} {name : Text}
    {p : Nat} {old rest places : List Nat} (hat : HoldsAt s table entries name old rest)
    (hplaces : places.Perm (old ++ rest)) (hlt : ∀ q ∈ p :: places, q < s.length)
    (hnodup : (p :: places).Nodup) {s₁ : Storage} {slot : Slot} {d : Data}
    (h : Rebuilt s old s₁ slot d)
    (hp : s'[p]? = some (Table.put table name slot))
    (hothers : ∀ q ≠ p, s'[q]? = s₁[q]?) (hlonger : s'.length = s₁.length) :
    Rebuilt s (p :: places) s' (.place p) (.mapping (Table.put entries name d)) := by
  obtain ⟨hpmem, hnodup⟩ := List.nodup_cons.mp hnodup
  obtain ⟨hold, hrest, hapart⟩ := List.nodup_append.mp (hplaces.nodup_iff.mp hnodup)
  have hpold : p ∉ old := fun hmem => hpmem (hplaces.mem_iff.mpr (List.mem_append_left _ hmem))
  have hprest : p ∉ rest := fun hmem => hpmem (hplaces.mem_iff.mpr (List.mem_append_right _ hmem))
  obtain ⟨new, hnew, hnewnodup, hwhere⟩ := h.stands
  have hpnew : p ∉ new := by
    intro hmem
    rcases hwhere p hmem with hmem | hge
    · exact hpold hmem
    · exact absurd (hlt p List.mem_cons_self) (Nat.not_lt.mpr hge)
  have hslot : Holds s' slot d new := by
    refine hnew.frame fun q hq table hkept => ?_
    rwa [hothers q fun heq => hpnew (heq ▸ hq)]
  have hkept : ∀ q ∈ rest, ∀ table : Table Slot, s[q]? = some table → s'[q]? = some table := by
    intro q hq table htable
    rw [hothers q fun heq => hprest (heq ▸ hq)]
    exact h.others q (fun hmem => hapart q hmem q hq rfl) table htable
  obtain ⟨places', hperm, hentries⟩ := hat.put hkept hslot
  refine ⟨hlonger ▸ h.longer, fun q hq table htable => ?_, p :: places', .place hp hentries,
    ?_, fun q hq => ?_⟩
  · rw [hothers q fun heq => hq (heq ▸ List.mem_cons_self)]
    refine h.others q (fun hmem => hq ?_) table htable
    exact List.mem_cons_of_mem _ (hplaces.mem_iff.mpr (List.mem_append_left _ hmem))
  · refine List.nodup_cons.mpr ⟨fun hmem => ?_, hperm.nodup_iff.mpr ?_⟩
    · exact (List.mem_append.mp (hperm.mem_iff.mp hmem)).elim hpnew hprest
    · refine List.nodup_append.mpr ⟨hnewnodup, hrest, ?_⟩
      rintro q hq _ hq' rfl
      rcases hwhere q hq with hmem | hge
      · exact hapart q hmem q hq' rfl
      · have hmem : q ∈ places := hplaces.mem_iff.mpr (List.mem_append_right _ hq')
        exact absurd (hlt q (List.mem_cons_of_mem _ hmem)) (Nat.not_lt.mpr hge)
  · rcases List.mem_cons.mp hq with rfl | hq
    · exact .inl List.mem_cons_self
    · rcases List.mem_append.mp (hperm.mem_iff.mp hq) with hq | hq
      · refine (hwhere q hq).imp_left fun hmem => ?_
        exact List.mem_cons_of_mem _ (hplaces.mem_iff.mpr (List.mem_append_left _ hmem))
      · exact .inl (List.mem_cons_of_mem _ (hplaces.mem_iff.mpr (List.mem_append_right _ hq)))

theorem Rebuilt.weaken {places : List Nat} {slot : Slot} {d : Data}
    (h : Rebuilt s [] s' slot d) : Rebuilt s places s' slot d := by
  obtain ⟨places', hholds, hnodup, hwhere⟩ := h.stands
  refine ⟨h.longer, fun p _ => h.others p List.not_mem_nil, places', hholds, hnodup, fun p hp => ?_⟩
  exact .inr ((hwhere p hp).resolve_left List.not_mem_nil)

/-- Data are kept and put under a name of the mapping at a place. -/
theorem rebuilt_write {table : Table Slot} {entries : Table Data} {p : Nat} {places : List Nat}
    (hp : s[p]? = some table) (h : HoldsEntries s table entries places)
    (hnodup : (p :: places).Nodup) (name : Text) (d : Data) :
    Rebuilt s (p :: places) ((s.keep d).2.write p name (s.keep d).1) (.place p)
      (.mapping (Table.put entries name d)) := by
  obtain ⟨old, rest, hplaces, hat⟩ := h.holdsAt name
  have hkeep := rebuilt_keep s d
  have hkept : (s.keep d).2[p]? = some table := hkeep.others p List.not_mem_nil table hp
  have hlt : p < (s.keep d).2.length := (List.getElem?_eq_some_iff.mp hkept).1
  refine hat.rebuilt hplaces (Holds.place hp h).lt hnodup hkeep.weaken ?_ (fun q hq => ?_) ?_
  · rw [write, entriesAt, hkept, List.getElem?_set_self hlt]
    rfl
  · exact List.getElem?_set_ne (Ne.symm hq)
  · exact List.length_set ..

/-- What is no mapping, or is laid on none, is put in the place of what stood there. -/
theorem entryOverlay_upper {table : Table Slot} {entries : Table Data} {name : Text}
    {old rest : List Nat} (hat : HoldsAt s table entries name old rest) {d : Data}
    (h : d.isMapping → ∀ q, Table.get? table name ≠ some (.place q)) :
    entryOverlay (Table.get? entries name) (some d) = some d := by
  rcases hat.found with ⟨-, hnone⟩ | ⟨slot, b, hslot, hb, hold⟩
  · rw [hnone]
    rfl
  · rw [hb]
    refine congrArg some (overlay_of_not_mappings fun ⟨hbase, htop⟩ => ?_)
    cases hold with
    | datum hno => exact hno hbase
    | place => exact h htop _ hslot

/-- What is no mapping, or is laid on none, is kept and written. -/
theorem mergeEntry_upper {p : Nat} {name : Text} {d : Data}
    (h : d.isMapping → ∀ q, Table.get? (s.entriesAt p) name ≠ some (.place q)) :
    s.mergeEntry p name d = (s.keep d).2.write p name (s.keep d).1 := by
  cases d with
  | value | list => rfl
  | mapping entries =>
      rw [mergeEntry]
      split
      · rename_i q hq
        exact (h rfl q hq).elim
      · rfl

theorem rebuilt_upper {base : Table Data} {p : Nat} {places : List Nat} {name : Text} {d : Data}
    (hholds : Holds s (.place p) (.mapping base) places) (hnodup : places.Nodup)
    (h : d.isMapping → ∀ q, Table.get? (s.entriesAt p) name ≠ some (.place q)) :
    ∃ united, entryOverlay (Table.get? base name) (some d) = some united ∧
      Rebuilt s places (s.mergeEntry p name d) (.place p)
        (.mapping (Table.put base name united)) := by
  obtain ⟨table, places, rfl, hp, hentries⟩ := hholds.exists_table
  obtain ⟨old, rest, hplaces, hat⟩ := hentries.holdsAt name
  have htable : s.entriesAt p = table := by rw [entriesAt, hp, Option.getD_some]
  refine ⟨d, entryOverlay_upper hat (htable ▸ h), ?_⟩
  rw [mergeEntry_upper h]
  exact rebuilt_write hp hentries hnodup name d

/-- A mapping is laid on a mapping: only what stands under its name changes. -/
theorem rebuilt_inner {base entries : Table Data} {p q : Nat} {places : List Nat} {name : Text}
    (hholds : Holds s (.place p) (.mapping base) places) (hnodup : places.Nodup)
    (hq : Table.get? (s.entriesAt p) name = some (.place q))
    (hinner : ∀ {inner : Table Data} {places : List Nat},
      Holds s (.place q) (.mapping inner) places → places.Nodup →
        Rebuilt s places (s.mergeInto q entries) (.place q)
          (.mapping (overlayEntries inner entries))) :
    ∃ united, entryOverlay (Table.get? base name) (some (.mapping entries)) = some united ∧
      Rebuilt s places (s.mergeEntry p name (.mapping entries)) (.place p)
        (.mapping (Table.put base name united)) := by
  obtain ⟨table, places, rfl, hp, h⟩ := hholds.exists_table
  rw [entriesAt, hp, Option.getD_some] at hq
  obtain ⟨old, rest, hplaces, hat⟩ := h.holdsAt name
  rcases hat.found with ⟨hnone, -⟩ | ⟨slot, d, hslot, hd, hold⟩
  · exact nomatch hnone.symm.trans hq
  obtain rfl : slot = .place q := Option.some.inj (hslot.symm.trans hq)
  have hparts := hplaces.nodup_iff.mp (List.nodup_cons.mp hnodup).2
  have hpold : p ∉ old := fun hmem => (List.nodup_cons.mp hnodup).1
    (hplaces.mem_iff.mpr (List.mem_append_left _ hmem))
  obtain ⟨inner, rfl⟩ : ∃ inner, d = .mapping inner := by
    cases hold
    exact ⟨_, rfl⟩
  have hrebuilt := hinner hold (List.nodup_append.mp hparts).1
  refine ⟨_, by rw [hd]; rfl, ?_⟩
  rw [mergeEntry, entriesAt, hp, Option.getD_some, hq]
  refine hat.rebuilt hplaces (Holds.place hp h).lt hnodup hrebuilt ?_ (fun _ _ => rfl) rfl
  rw [Table.put_of_get? hq]
  exact hrebuilt.others p hpold table hp

mutual

theorem mergeEntry_rebuilds (s : Storage) (p : Nat) (name : Text) :
    ∀ (d : Data) {base : Table Data} {places : List Nat},
      Holds s (.place p) (.mapping base) places → places.Nodup →
        ∃ united, entryOverlay (Table.get? base name) (some d) = some united ∧
          Rebuilt s places (s.mergeEntry p name d) (.place p)
            (.mapping (Table.put base name united))
  | .value _, _, _, hholds, hnodup | .list _, _, _, hholds, hnodup =>
    rebuilt_upper hholds hnodup fun h => absurd h Bool.false_ne_true
  | .mapping entries, _, _, hholds, hnodup => by
      by_cases hq : ∃ q, Table.get? (s.entriesAt p) name = some (.place q)
      · obtain ⟨q, hq⟩ := hq
        exact rebuilt_inner hholds hnodup hq (mergeInto_rebuilds s q entries)
      · exact rebuilt_upper hholds hnodup fun _ q hget => hq ⟨q, hget⟩

/-- What is laid on the mapping at a place, entry by entry. -/
theorem mergeInto_rebuilds (s : Storage) (p : Nat) : ∀ (top : List (Text × Data))
    {base : Table Data} {places : List Nat}, Holds s (.place p) (.mapping base) places →
      places.Nodup →
        Rebuilt s places (s.mergeInto p top) (.place p) (.mapping (overlayEntries base top))
  | [], _, places, hholds, hnodup =>
    ⟨Nat.le_refl _, fun _ _ _ hp => hp, places, hholds, hnodup, fun _ hp => .inl hp⟩
  | (name, d) :: rest, base, _, hholds, hnodup => by
      obtain ⟨united, hunited, hrebuilt⟩ := mergeEntry_rebuilds s p name d hholds hnodup
      obtain ⟨united', hunited', hcons⟩ := overlayEntries_cons base name d rest
      obtain rfl : united = united' := Option.some.inj (hunited.symm.trans hunited')
      rw [mergeInto, hcons]
      exact hrebuilt.trans (mergeInto_rebuilds (s.mergeEntry p name d) p rest)

end

/-! ### Loading -/

/-- A load gives what the pure one gives, and leaves what stood in the storage as it was. -/
theorem loadAt_eq {defaults : Nat} {base : Table Data}
    (hbase : s.read? (.place defaults) = some (.mapping base)) {overrides : Slot} {given : Data}
    (hgiven : s.read? overrides = some given) (entries : Table Data) :
    ∃ root s', Config.loadAt defaults s overrides entries = some (root, s') ∧ Extends s s' ∧
      s'.read? (.place root) =
        some (.mapping (overlayEntries (overlayEntries base given.entries) entries)) := by
  obtain ⟨hextends, places, hholds, hnodup, hnew⟩ := keep_holds s (.mapping base)
  obtain ⟨root, s₁, hkeep⟩ : ∃ root s₁, s.keep (.mapping base) = (.place root, s₁) :=
    ⟨_, _, keep.eq_1 s base⟩
  rw [hkeep] at hextends hholds
  have hrebuilt := (mergeInto_rebuilds s₁ root given.entries hholds hnodup).trans
    (mergeInto_rebuilds _ root entries)
  obtain ⟨places', hholds', hnodup', -⟩ := hrebuilt.stands
  refine ⟨root, _, ?_, fun p table hp => ?_, hholds'.read? hnodup'⟩
  · rw [Config.loadAt, hgiven, Option.bind_eq_bind, Option.bind_some, hbase, Option.bind_some,
      hkeep]
    rfl
  · refine hrebuilt.others p (fun hmem => ?_) table (hextends p table hp)
    exact absurd (List.getElem?_eq_some_iff.mp hp).1 (Nat.not_lt.mpr (hnew p hmem))

/-- Configurations have been loaded, one after the other. -/
inductive Loads (defaults : Nat) (s : Storage) : Storage → Prop
  | none : Loads defaults s s
  | load {overrides : Slot} {entries : Table Data} {root : Nat} {s₁ s₂ : Storage}
      (h : Loads defaults s s₁)
      (hload : Config.loadAt defaults s₁ overrides entries = some (root, s₂)) :
      Loads defaults s s₂

/-- What stands in a storage stands there after any loads, the defaults among the rest. -/
theorem Loads.extends {defaults : Nat} {base : Table Data}
    (hbase : s.read? (.place defaults) = some (.mapping base)) (h : Loads defaults s s') :
    Extends s s' := by
  induction h with
  | none => exact .refl s
  | load _ hload ih =>
      obtain ⟨given, hgiven, -⟩ := Option.bind_eq_some_iff.mp hload
      obtain ⟨root, s', heq, hextends, -⟩ := loadAt_eq (ih.read? hbase) hgiven _
      obtain ⟨-, rfl⟩ := Prod.mk.inj (Option.some.inj (hload.symm.trans heq))
      exact ih.trans hextends

end CardTalk.Storage
