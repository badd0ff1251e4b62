/-
What tables give back.

Names are looked up from the front; a table that entries have only been put into has each name
once, so there a name gives the value of the entry that has it.
-/
import CardTalk.Table
import Mathlib.Data.List.Nodup

namespace CardTalk

namespace Table

variable {α : Type}

theorem get?_cons (name other : Text) (a : α) (t : Table α) :
    get? ((other, a) :: t) name = if name = other then some a else get? t name := by
  by_cases h : name = other
  · rw [if_pos h, get?, List.lookup_cons, h, beq_self_eq_true]
  · rw [if_neg h, get?, List.lookup_cons, beq_false_of_ne h]
    rfl

theorem get?_put (t : Table α) (name other : Text) (a : α) :
    get? (put t name a) other = if other = name then some a else get? t other := by
  induction t with
  | nil => exact get?_cons other name a []
  | cons e t ih =>
      obtain ⟨first, old⟩ := e
      rw [put]
      by_cases hfirst : first = name
      · rw [if_pos hfirst, get?_cons, get?_cons, hfirst]
        by_cases hother : other = name
        · rw [if_pos hother, if_pos hother]
        · rw [if_neg hother, if_neg hother, if_neg hother]
      · rw [if_neg hfirst, get?_cons, ih, get?_cons]
        by_cases hother : other = first
        · rw [if_pos hother, if_pos hother, if_neg fun h => hfirst (hother.symm.trans h)]
        · rw [if_neg hother, if_neg hother]

theorem has_put (t : Table α) (name other : Text) (a : α) :
    has (put t name a) other ↔ other = name ∨ has t other := by
  rw [has, has, get?_put]
  by_cases h : other = name
  · simp [h]
  · simp [h]

theorem get?_remove (t : Table α) {name other : Text} (h : other ≠ name) :
    get? (remove t name) other = get? t other := by
  induction t with
  | nil => rfl
  | cons e t ih =>
      obtain ⟨first, old⟩ := e
      rw [remove] at ih ⊢
      by_cases hfirst : first = name
      · rw [List.filter_cons_of_neg (by simp [hfirst]), ih, get?_cons,
          if_neg fun heq => h (heq.trans hfirst)]
      · rw [List.filter_cons_of_pos (by simp [hfirst]), get?_cons, ih, get?_cons]

theorem get?_remove_self (t : Table α) (name : Text) : get? (remove t name) name = none := by
  rw [get?, List.lookup_eq_none_iff]
  intro e he
  obtain ⟨-, hne⟩ := List.mem_filter.mp he
  exact bne_iff_ne.mpr fun h => bne_iff_ne.mp hne h.symm

theorem names_remove_nodup {t : Table α} (h : t.names.Nodup) (name : Text) :
    (remove t name).names.Nodup :=
  h.sublist (List.filter_sublist.map Prod.fst)

theorem mem_names_put {t : Table α} {name other : Text} {a : α}
    (h : other ∈ (put t name a).names) : other = name ∨ other ∈ t.names := by
  induction t with
  | nil => exact .inl (List.mem_singleton.mp h)
  | cons e t ih =>
      obtain ⟨first, old⟩ := e
      rw [put] at h
      by_cases hname : first = name
      · rw [if_pos hname] at h
        exact .inr h
      · rw [if_neg hname] at h
        rcases List.mem_cons.mp h with rfl | h
        · exact .inr List.mem_cons_self
        · exact (ih h).imp_right (List.mem_cons_of_mem _)

/-- Putting keeps the names apart. -/
theorem names_put_nodup {t : Table α} (h : t.names.Nodup) (name : Text) (a : α) :
    (put t name a).names.Nodup := by
  induction t with
  | nil => exact List.nodup_singleton _
  | cons e t ih =>
      obtain ⟨first, old⟩ := e
      obtain ⟨hfirst, ht⟩ := List.nodup_cons.mp h
      rw [put]
      by_cases hname : first = name
      · rw [if_pos hname]
        exact h
      · rw [if_neg hname]
        refine List.nodup_cons.mpr ⟨fun hmem => ?_, ih ht⟩
        exact (mem_names_put hmem).elim hname hfirst

theorem get?_of_mem {t : Table α} (h : t.names.Nodup) {e : Text × α} (he : e ∈ t) :
    get? t e.1 = some e.2 := by
  induction t with
  | nil => exact nomatch he
  | cons first t ih =>
      obtain ⟨hfirst, ht⟩ := List.nodup_cons.mp h
      obtain ⟨name, old⟩ := first
      rw [get?_cons]
      rcases List.mem_cons.mp he with rfl | hrest
      · exact if_pos rfl
      · have hne : e.1 ≠ name := by
          rintro rfl
          exact hfirst (show e.1 ∈ names t from List.mem_map_of_mem hrest)
        rw [if_neg hne]
        exact ih ht hrest

theorem mem_of_get? {t : Table α} {name : Text} {a : α} (h : get? t name = some a) :
    (name, a) ∈ t := by
  obtain ⟨before, after, rfl, -⟩ := List.lookup_eq_some_iff.mp h
  exact List.mem_append_right _ List.mem_cons_self

theorem get?_eq_none_iff {t : Table α} {name : Text} : get? t name = none ↔ name ∉ t.names := by
  induction t with
  | nil => exact ⟨fun _ h => (nomatch h), fun _ => rfl⟩
  | cons e t ih =>
      obtain ⟨other, a⟩ := e
      rw [get?_cons, show names ((other, a) :: t) = other :: names t from rfl, List.mem_cons]
      by_cases h : name = other
      · simp [h]
      · rw [if_neg h, ih]
        simp [h]

/-- Putting what is there already changes nothing. -/
theorem put_of_get? {t : Table α} {name : Text} {a : α} (h : get? t name = some a) :
    put t name a = t := by
  induction t with
  | nil => exact nomatch h
  | cons e t ih =>
      obtain ⟨other, old⟩ := e
      rw [get?_cons] at h
      rw [put]
      by_cases hname : other = name
      · rw [if_pos hname.symm] at h
        rw [if_pos hname, Option.some.inj h]
      · rw [if_neg fun heq => hname heq.symm] at h
        rw [if_neg hname, ih h]

/-- Putting leaves the names in their order; a new one comes last. -/
theorem names_put (t : Table α) (name : Text) (a : α) :
    (put t name a).names = if name ∈ t.names then t.names else t.names ++ [name] := by
  induction t with
  | nil => rfl
  | cons e t ih =>
      obtain ⟨other, old⟩ := e
      have hcons : ∀ u : Table α, ∀ b : α, names ((other, b) :: u) = other :: names u :=
        fun _ _ => rfl
      rw [put, hcons]
      by_cases hname : other = name
      · rw [if_pos hname, hcons, if_pos (by simp [hname])]
      · rw [if_neg hname, hcons, ih]
        have hne : name ≠ other := fun h => hname h.symm
        by_cases hmem : name ∈ names t
        · simp [hmem]
        · simp [hmem, hne]

/-- Tables with the same names in the same order and the same values are the same. -/
theorem ext_of_names {t u : Table α} (ht : t.names.Nodup) (hnames : t.names = u.names)
    (hvalues : ∀ name, get? t name = get? u name) : t = u := by
  induction t generalizing u with
  | nil => exact (List.map_eq_nil_iff.mp hnames.symm).symm
  | cons e t ih =>
      cases u with
      | nil => exact absurd hnames (List.cons_ne_nil _ _)
      | cons e' u =>
          obtain ⟨name, a⟩ := e
          obtain ⟨name', a'⟩ := e'
          obtain ⟨rfl, hrest⟩ : name = name' ∧ names t = names u := List.cons.inj hnames
          obtain ⟨hfirst, ht⟩ := List.nodup_cons.mp ht
          have hhead := hvalues name
          rw [get?_cons, get?_cons, if_pos rfl, if_pos rfl] at hhead
          have htail : t = u := by
            refine ih ht hrest fun other => ?_
            by_cases hother : other = name
            · have hno : other ∉ names t := fun hmem => hfirst (hother ▸ hmem)
              rw [get?_eq_none_iff.mpr hno, get?_eq_none_iff.mpr (hrest ▸ hno)]
            · have hvalue := hvalues other
              rwa [get?_cons, get?_cons, if_neg hother, if_neg hother] at hvalue
          rw [Option.some.inj hhead, htail]

end Table

end CardTalk
