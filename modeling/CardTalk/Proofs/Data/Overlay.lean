/-
What one mapping laid over another is.

`Data.IsUnion` says what the union of two data is without saying how it comes about: under a
name that only one of two mappings has stands what it has there, under a name of both stands
the union of the two, and what is not two mappings is the upper one.  `overlay_isUnion` says
that laying one over the other gives that, and `overlay_overlay` that laying the result over
the same base once more changes nothing, not even the order of the entries.

Both need that every mapping has each of its names once (`Data.Distinct`).
-/
import CardTalk.Data
import CardTalk.Proofs.Table

namespace CardTalk.Data

/-- In every mapping each name stands once. -/
inductive Distinct : Data → Prop
  | value (v : Value) : Distinct (.value v)
  | list (items : List Data) : Distinct (.list items)
  | mapping {entries : Table Data} (hnames : Table.names entries |>.Nodup)
      (h : ∀ e ∈ entries, Distinct e.2) : Distinct (.mapping entries)

/-- Whether data are a mapping. -/
def isMapping : Data → Bool
  | mapping _ => true
  | _ => false

mutual

/-- The third data are the second laid over the first. -/
inductive IsUnion : Data → Data → Data → Prop
  | mappings {base top both : Table Data} (hnames : (Table.names both).Nodup)
      (h : ∀ name, IsEntryUnion (Table.get? base name) (Table.get? top name)
        (Table.get? both name)) :
      IsUnion (.mapping base) (.mapping top) (.mapping both)
  | upper {base top : Data} (h : ¬(base.isMapping ∧ top.isMapping)) : IsUnion base top top

/-- What stands under a name in the union of two mappings. -/
inductive IsEntryUnion : Option Data → Option Data → Option Data → Prop
  | absent : IsEntryUnion none none none
  | onlyLower (b : Data) : IsEntryUnion (some b) none (some b)
  | onlyUpper (d : Data) : IsEntryUnion none (some d) (some d)
  | united {b d u : Data} (h : IsUnion b d u) : IsEntryUnion (some b) (some d) (some u)

end

theorem Distinct.names {entries : Table Data} (h : (Data.mapping entries).Distinct) :
    (Table.names entries).Nodup := by
  cases h with
  | mapping hnames _ => exact hnames

theorem Distinct.of_get? {entries : Table Data} (h : (Data.mapping entries).Distinct) {name : Text}
    {d : Data} (hd : Table.get? entries name = some d) : d.Distinct := by
  cases h with
  | mapping _ h => exact h (name, d) (Table.mem_of_get? hd)

/-! ### What stands where -/

theorem overlay_of_not_mappings {base top : Data} (h : ¬(base.isMapping ∧ top.isMapping)) :
    overlay base top = top := by
  cases top with
  | value | list => rw [overlay.eq_2]; exact fun _ _ _ => nofun
  | mapping top =>
      cases base with
      | mapping => exact absurd ⟨rfl, rfl⟩ h
      | value | list => rw [overlay.eq_2]; exact fun _ _ => nofun

/-- What stands under a name when two mappings have been laid on each other. -/
def entryOverlay : Option Data → Option Data → Option Data
  | none, above => above
  | some b, none => some b
  | some b, some d => some (overlay b d)

theorem overlayEntries_cons (base : Table Data) (name : Text) (d : Data) (rest : Table Data) :
    ∃ united, entryOverlay (Table.get? base name) (some d) = some united ∧
      overlayEntries base ((name, d) :: rest) =
        overlayEntries (Table.put base name united) rest := by
  rw [overlayEntries]
  cases Table.get? base name with
  | none => exact ⟨_, rfl, rfl⟩
  | some b => exact ⟨_, rfl, rfl⟩

theorem get?_overlayEntries (base : Table Data) {top : Table Data} (htop : (Table.names top).Nodup)
    (name : Text) :
    Table.get? (overlayEntries base top) name =
      entryOverlay (Table.get? base name) (Table.get? top name) := by
  induction top generalizing base with
  | nil =>
      rw [overlayEntries]
      cases hbase : Table.get? base name <;> rfl
  | cons e rest ih =>
      obtain ⟨first, d⟩ := e
      obtain ⟨hfirst, hrest⟩ := List.nodup_cons.mp htop
      obtain ⟨united, hunited, hcons⟩ := overlayEntries_cons base first d rest
      rw [hcons, ih _ hrest, Table.get?_put, Table.get?_cons]
      by_cases hname : name = first
      · rw [if_pos hname, if_pos hname, hname, Table.get?_eq_none_iff.mpr hfirst, hunited]
        rfl
      · rw [if_neg hname, if_neg hname]

theorem names_overlayEntries (base : Table Data) {top : Table Data}
    (htop : (Table.names top).Nodup) :
    Table.names (overlayEntries base top) =
      Table.names base ++ (Table.names top).filter (· ∉ Table.names base) := by
  induction top generalizing base with
  | nil =>
      rw [overlayEntries]
      exact (List.append_nil _).symm
  | cons e rest ih =>
      obtain ⟨first, d⟩ := e
      obtain ⟨hfirst, hrest⟩ := List.nodup_cons.mp htop
      obtain ⟨united, -, hcons⟩ := overlayEntries_cons base first d rest
      have hnames : Table.names ((first, d) :: rest) = first :: Table.names rest := rfl
      rw [hcons, ih _ hrest, Table.names_put, hnames]
      by_cases hmem : first ∈ Table.names base
      · rw [if_pos hmem, List.filter_cons_of_neg (by simpa using hmem)]
      · rw [if_neg hmem, List.filter_cons_of_pos (by simpa using hmem), List.append_assoc,
          List.singleton_append]
        refine congrArg (fun others => Table.names base ++ first :: others) ?_
        refine List.filter_congr fun name hname => ?_
        have hne : name ≠ first := by
          rintro rfl
          exact hfirst hname
        simp [hne]

theorem names_overlayEntries_nodup {base top : Table Data} (hbase : (Table.names base).Nodup)
    (htop : (Table.names top).Nodup) : (Table.names (overlayEntries base top)).Nodup := by
  rw [names_overlayEntries base htop, List.nodup_append]
  refine ⟨hbase, htop.filter _, ?_⟩
  rintro name hname _ hother rfl
  simp [hname] at hother

/-! ### The union -/

theorem exists_entries {d : Data} (h : d.isMapping) : ∃ entries, d = mapping entries := by
  cases d with
  | value | list => exact absurd h Bool.false_ne_true
  | mapping entries => exact ⟨entries, rfl⟩

/-- **Laying one over the other gives their union**, by induction on the lower one. -/
theorem overlay_isUnion {base top : Data} (hbase : base.Distinct) (htop : top.Distinct) :
    IsUnion base top (overlay base top) := by
  induction hbase generalizing top with
  | value v =>
      have hno : ¬((value v).isMapping ∧ top.isMapping) := fun h => Bool.false_ne_true h.1
      rw [overlay_of_not_mappings hno]
      exact .upper hno
  | list items =>
      have hno : ¬((list items).isMapping ∧ top.isMapping) := fun h => Bool.false_ne_true h.1
      rw [overlay_of_not_mappings hno]
      exact .upper hno
  | @mapping base hnames _ ih =>
      by_cases hmapping : top.isMapping
      · obtain ⟨top, rfl⟩ := exists_entries hmapping
        rw [overlay]
        refine .mappings (names_overlayEntries_nodup hnames htop.names) fun name => ?_
        rw [get?_overlayEntries base htop.names]
        cases hb : Table.get? base name with
        | none =>
            cases hd : Table.get? top name with
            | none => exact .absent
            | some d => exact .onlyUpper d
        | some b =>
            cases hd : Table.get? top name with
            | none => exact .onlyLower b
            | some d => exact .united (ih _ (Table.mem_of_get? hb) (htop.of_get? hd))
      · rw [overlay_of_not_mappings fun h => hmapping h.2]
        exact .upper fun h => hmapping h.2

/-- What nothing is laid over is laid over itself. -/
theorem overlay_self_of {d : Data}
    (h : ∀ {top : Data}, top.Distinct → overlay d (overlay d top) = overlay d top) :
    overlay d d = d := by
  by_cases hmapping : d.isMapping
  · obtain ⟨entries, rfl⟩ := exists_entries hmapping
    have hempty : (mapping []).Distinct := .mapping .nil fun _ he => nomatch he
    exact h hempty
  · exact overlay_of_not_mappings fun h => hmapping h.1

/-- **Laying the union over the base once more changes nothing.** -/
theorem overlay_overlay {base top : Data} (hbase : base.Distinct) (htop : top.Distinct) :
    overlay base (overlay base top) = overlay base top := by
  induction hbase generalizing top with
  | value v =>
      have hno : ¬((value v).isMapping ∧ top.isMapping) := fun h => Bool.false_ne_true h.1
      rw [overlay_of_not_mappings hno, overlay_of_not_mappings hno]
  | list items =>
      have hno : ¬((list items).isMapping ∧ top.isMapping) := fun h => Bool.false_ne_true h.1
      rw [overlay_of_not_mappings hno, overlay_of_not_mappings hno]
  | @mapping base hnames _ ih =>
      by_cases hmapping : top.isMapping
      · obtain ⟨top, rfl⟩ := exists_entries hmapping
        have hboth := names_overlayEntries_nodup hnames htop.names
        rw [overlay, overlay]
        refine congrArg mapping (Table.ext_of_names ?_ ?_ fun name => ?_)
        · exact names_overlayEntries_nodup hnames hboth
        · have hnone : (Table.names base).filter (· ∉ Table.names base) = [] :=
            List.filter_eq_nil_iff.mpr fun name hname => by simpa using hname
          rw [names_overlayEntries base hboth, names_overlayEntries base htop.names,
            List.filter_append, hnone, List.nil_append, List.filter_filter]
          simp only [Bool.and_self]
        · rw [get?_overlayEntries base hboth, get?_overlayEntries base htop.names]
          cases hb : Table.get? base name with
          | none => rfl
          | some b =>
              have hentry := Table.mem_of_get? hb
              cases hd : Table.get? top name with
              | none => exact congrArg some (overlay_self_of (ih _ hentry))
              | some d => exact congrArg some (ih _ hentry (htop.of_get? hd))
      · have hupper : overlay (.mapping base) top = top :=
          overlay_of_not_mappings fun h => hmapping h.2
        rw [hupper, hupper]

end CardTalk.Data
