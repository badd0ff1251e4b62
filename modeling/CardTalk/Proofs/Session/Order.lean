/-
Who is admitted to a source.

A task is admitted once its source is its own: it has been called, or was the first to come.
`Pool.Orderly` says that tasks of one source are admitted in the order in which they were
posted, each only after all earlier ones have ended, and that whoever waits for a source
waits for somebody who has it.  Posting a task and giving any task a turn keep this, so
nobody waits for ever: `Orderly.exists_turns` finds turns after which all tasks have ended.
-/
import CardTalk.Proofs.Session.Basic

namespace CardTalk

namespace Pool

variable {σ α : Type}

/-- Whether a task has its source, or had it until it ended. -/
def Task.isAdmitted (t : Task σ α) : Bool :=
  match t.phase with
  | .called | .asleep _ _ | .done _ => true
  | .fresh | .waiting => false

/-- What the rest of a task gives when nothing interrupts it. -/
def Task.finish (t : Task σ α) (s : σ) : Except Fault α × σ :=
  match t.phase with
  | .done outcome => (outcome, s)
  | .asleep _ wake => (wake s).complete
  | .fresh | .waiting | .called => (t.start s).complete

/-- A later task of the same source is admitted only after the earlier one has ended. -/
def Task.Precedes (earlier later : Task σ α) : Prop :=
  earlier.source.isSome → earlier.source = later.source → later.isAdmitted → earlier.isDone

/-- A task has its source. -/
structure Task.Has (t : Task σ α) (source : Option Text) : Prop where
  source : t.source = source
  admitted : t.isAdmitted
  unfinished : ¬t.isDone

/-- Tasks of one source have it one after the other. -/
structure Orderly (p : Pool σ α) : Prop where
  /-- Everybody has had a turn. -/
  arrived : ∀ t ∈ p.tasks, t.isAdmitted ∨ t.isWaiting
  inOrder : p.tasks.Pairwise Task.Precedes
  /-- A source that somebody waits for is somebody's. -/
  taken : ∀ t ∈ p.tasks, t.isWaiting → t.source.isSome ∧ ∃ holder ∈ p.tasks, holder.Has t.source

/-! ### Phases -/

namespace Task

variable {t : Task σ α}

theorem isAdmitted_of_isDone (h : t.isDone) : t.isAdmitted := by
  unfold isDone at h
  unfold isAdmitted
  split at h <;> simp_all

theorem not_isAdmitted_of_isWaiting (h : t.isWaiting) : ¬t.isAdmitted := by
  unfold isWaiting at h
  unfold isAdmitted
  split at h <;> simp_all

theorem not_isDone_of_isWaiting (h : t.isWaiting) : ¬t.isDone :=
  fun hdone => not_isAdmitted_of_isWaiting h (isAdmitted_of_isDone hdone)

end Task

/-! ### Where the tasks of a pool are -/

theorem exists_split {β : Type} {l : List β} {i : Nat} {b : β} (h : l[i]? = some b) :
    ∃ before after, l = before ++ b :: after ∧ before.length = i := by
  obtain ⟨hi, rfl⟩ := List.getElem?_eq_some_iff.mp h
  refine ⟨l.take i, l.drop (i + 1), ?_, List.length_take_of_le (Nat.le_of_lt hi)⟩
  rw [List.getElem_cons_drop, List.take_append_drop]

theorem modify_split {β : Type} (f : β → β) (before : List β) (b : β) (after : List β) :
    (before ++ b :: after).modify before.length f = before ++ f b :: after := by
  induction before with
  | nil => rfl
  | cons a before ih =>
      rw [List.cons_append, List.length_cons, List.modify_succ_cons, ih, List.cons_append]

theorem mem_split {β : Type} {before after : List β} {a b : β} :
    a ∈ before ++ b :: after ↔ a = b ∨ a ∈ before ++ after := by
  simp only [List.mem_append, List.mem_cons]
  exact or_left_comm

theorem mem_split_self {β : Type} {before after : List β} {b : β} : b ∈ before ++ b :: after :=
  mem_split.mpr (.inl rfl)

theorem mem_split_of_mem {β : Type} {before after : List β} {a b : β} (h : a ∈ before ++ after) :
    a ∈ before ++ b :: after :=
  mem_split.mpr (.inr h)

theorem forall_mem_split {β : Type} {P : β → Prop} {before after : List β} {b : β} (hb : P b)
    (h : ∀ a ∈ before ++ after, P a) : ∀ a ∈ before ++ b :: after, P a :=
  fun a ha => (mem_split.mp ha).elim (fun heq => heq ▸ hb) (h a)

theorem pairwise_split {β : Type} {R : β → β → Prop} {before after : List β} {b c : β}
    (h : (before ++ b :: after).Pairwise R) (hbefore : ∀ a ∈ before, R a c)
    (hafter : ∀ a ∈ after, R c a) : (before ++ c :: after).Pairwise R := by
  rw [List.pairwise_append, List.pairwise_cons] at h ⊢
  obtain ⟨hpre, ⟨-, hpost⟩, hacross⟩ := h
  refine ⟨hpre, ⟨hafter, hpost⟩, fun a ha d hd => ?_⟩
  rcases List.mem_cons.mp hd with rfl | hd
  · exact hbefore a ha
  · exact hacross a ha d (List.mem_cons_of_mem _ hd)

section

variable {p : Pool σ α} {before after : List (Task σ α)} {t : Task σ α}

theorem setPhase_tasks (h : p.tasks = before ++ t :: after) (phase : Phase σ α) :
    (p.setPhase before.length phase).tasks = before ++ { t with phase } :: after := by
  rw [setPhase, h]
  exact modify_split _ before t after

theorem getElem?_split (h : p.tasks = before ++ t :: after) :
    p.tasks[before.length]? = some t := by
  rw [h]
  simp

end

/-- Calling the next one changes nobody, or the first one that waits for the source. -/
theorem callNext_cases (p : Pool σ α) (source : Option Text) :
    (p.callNext source).tasks = p.tasks ∧
      (source.isSome → ∀ t ∈ p.tasks, t.source = source → ¬t.isWaiting) ∨
    ∃ before t after, p.tasks = before ++ t :: after ∧ source.isSome ∧ t.source = source ∧
      t.isWaiting ∧ (∀ u ∈ before, u.source = source → ¬u.isWaiting) ∧
      (p.callNext source).tasks = before ++ { t with phase := .called } :: after := by
  unfold callNext firstOf?
  by_cases hsome : source.isSome
  · rw [if_pos hsome]
    cases hfirst : p.tasks.findIdx? fun t => t.source == source && t.isWaiting with
    | none =>
        refine .inl ⟨rfl, fun _ t ht hsource => ?_⟩
        have hnone := List.findIdx?_eq_none_iff.mp hfirst t ht
        simpa [hsource] using hnone
    | some j =>
        obtain ⟨hj, htest, hbefore⟩ := List.findIdx?_eq_some_iff_getElem.mp hfirst
        obtain ⟨before, after, hsplit, hlength⟩ := exists_split (List.getElem?_eq_getElem hj)
        simp only [Bool.and_eq_true, beq_iff_eq] at htest
        refine .inr ⟨before, _, after, hsplit, hsome, htest.1, htest.2, ?_, ?_⟩
        · intro u hu hsource
          obtain ⟨k, hk, rfl⟩ := List.getElem_of_mem hu
          have hfails := hbefore k (hlength ▸ hk)
          rw [List.getElem_of_eq hsplit, List.getElem_append_left hk] at hfails
          simpa [hsource] using hfails
        · have htasks := setPhase_tasks hsplit .called
          rwa [hlength] at htasks
  · rw [if_neg hsome]
    exact .inl ⟨rfl, fun h => absurd h hsome⟩

/-! ### Turns keep the order -/

section

variable {p : Pool σ α} {before after : List (Task σ α)} {t : Task σ α}

/-- Calling the next one keeps the order when nobody has the source any more. -/
theorem Orderly.callNext {source : Option Text}
    (arrived : ∀ u ∈ p.tasks, u.isAdmitted ∨ u.isWaiting)
    (inOrder : p.tasks.Pairwise Task.Precedes)
    (free : ∀ u ∈ p.tasks, u.source = source → source.isSome → u.isAdmitted → u.isDone)
    (taken : ∀ u ∈ p.tasks, u.isWaiting → u.source.isSome ∧
      (u.source = source ∨ ∃ holder ∈ p.tasks, holder.Has u.source)) :
    (p.callNext source).Orderly := by
  obtain ⟨htasks, hnone⟩ | ⟨before, t, after, hsplit, hsome, hsource, hwaiting, hbefore, htasks⟩ :=
    callNext_cases p source
  · rw [← htasks] at arrived inOrder taken hnone
    refine ⟨arrived, inOrder, fun u hu huwaiting => ?_⟩
    obtain ⟨husome, rfl | hholder⟩ := taken u hu huwaiting
    · exact absurd huwaiting (hnone husome u hu rfl)
    · exact ⟨husome, hholder⟩
  · rw [hsplit] at arrived inOrder free taken
    have hout : ¬t.isAdmitted := Task.not_isAdmitted_of_isWaiting hwaiting
    have hcalled : ({ t with phase := .called } : Task σ α).Has source := ⟨hsource, rfl, nofun⟩
    refine ⟨?_, ?_, ?_⟩ <;> rw [htasks]
    · exact forall_mem_split (.inl rfl) fun u hu => arrived u (mem_split_of_mem hu)
    · refine pairwise_split inOrder (fun u hu _ husource _ => ?_)
        (fun u hu husome husource hin => ?_)
      · -- Whoever comes before the first one that waits has been admitted, and has ended.
        have hmem := List.mem_append_left (t :: after) hu
        have husource : u.source = source := husource.trans hsource
        have hin := (arrived u hmem).resolve_right (hbefore u hu husource)
        exact free u hmem husource hsome hin
      · have hpost := (List.pairwise_cons.mp (List.pairwise_append.mp inOrder).2.1).1
        exact absurd (Task.isAdmitted_of_isDone (hpost u hu husome husource hin)) hout
    · intro u hu huwaiting
      obtain rfl | hu := mem_split.mp hu
      · exact nomatch huwaiting
      · obtain ⟨husome, husource | ⟨holder, hmem, hholder⟩⟩ :=
          taken u (mem_split_of_mem hu) huwaiting
        · exact ⟨husome, _, mem_split_self, husource ▸ hcalled⟩
        · obtain rfl | hmem := mem_split.mp hmem
          · exact absurd hholder.admitted hout
          · exact ⟨husome, holder, mem_split_of_mem hmem, hholder⟩

/-- A task goes on when all earlier ones of its source have ended. -/
theorem Orderly.advance (hsplit : p.tasks = before ++ t :: after)
    (arrived : ∀ u ∈ before ++ after, u.isAdmitted ∨ u.isWaiting)
    (inOrder : p.tasks.Pairwise Task.Precedes)
    (taken : ∀ u ∈ before ++ after, u.isWaiting → u.source.isSome ∧
      ∃ holder ∈ p.tasks, holder.Has u.source)
    (hunfinished : ¬t.isDone)
    (hfirst : ∀ u ∈ before, u.source.isSome → u.source = t.source → u.isDone) (r : Run σ α) :
    (p.advance before.length r).Orderly := by
  rw [hsplit] at inOrder taken
  have hlater : ∀ u ∈ after, t.source.isSome → t.source = u.source → ¬u.isAdmitted :=
    fun u hu hsome hsource hin => hunfinished <|
      (List.pairwise_cons.mp (List.pairwise_append.mp inOrder).2.1).1 u hu hsome hsource hin
  -- Whoever takes the place of the task keeps the order, the task being the first that is left.
  have hreplaced : ∀ phase, (before ++ { t with phase } :: after).Pairwise Task.Precedes :=
    fun phase => pairwise_split inOrder (fun u hu hsome hsource _ => hfirst u hu hsome hsource)
      fun u hu hsome hsource hin => absurd hin (hlater u hu hsome hsource)
  cases r with
  | asleep seconds s wake =>
      have htasks := setPhase_tasks (p := { p with state := s }) hsplit (.asleep seconds wake)
      refine ⟨?_, ?_, ?_⟩ <;> rw [Pool.advance, htasks]
      · exact forall_mem_split (.inl rfl) arrived
      · exact hreplaced _
      · intro u hu huwaiting
        obtain rfl | hu := mem_split.mp hu
        · exact absurd huwaiting Bool.false_ne_true
        · obtain ⟨husome, holder, hmem, hholder⟩ := taken u hu huwaiting
          obtain rfl | hmem := mem_split.mp hmem
          · exact ⟨husome, _, mem_split_self, ⟨hholder.source, rfl, Bool.false_ne_true⟩⟩
          · exact ⟨husome, holder, mem_split_of_mem hmem, hholder⟩
  | finished outcome s =>
      have htasks := setPhase_tasks (p := { p with state := s }) hsplit (.done outcome)
      have hsource :
          (({ p with state := s }.setPhase before.length (.done outcome)).tasks[before.length]?.bind
            Task.source) = t.source := by
        rw [getElem?_split htasks]
        rfl
      rw [Pool.advance, hsource]
      refine .callNext ?_ ?_ ?_ ?_ <;> rw [htasks]
      · exact forall_mem_split (.inl rfl) arrived
      · exact hreplaced _
      · intro u hu husource husome hin
        rcases List.mem_append.mp hu with hu | hu
        · exact hfirst u hu (husource ▸ husome) husource
        · rcases List.mem_cons.mp hu with rfl | hu
          · rfl
          · exact absurd hin (hlater u hu husome husource.symm)
      · intro u hu huwaiting
        obtain rfl | hu := mem_split.mp hu
        · exact absurd huwaiting Bool.false_ne_true
        · obtain ⟨husome, holder, hmem, hholder⟩ := taken u hu huwaiting
          obtain rfl | hmem := mem_split.mp hmem
          · exact ⟨husome, .inl hholder.source.symm⟩
          · exact ⟨husome, .inr ⟨holder, mem_split_of_mem hmem, hholder⟩⟩

end

/-- A turn is nothing, or an admitted task goes on and all earlier ones of its source have
ended. -/
theorem Orderly.turn_cases {p : Pool σ α} (h : p.Orderly) (i : Nat) :
    p.resume i = p ∨ ∃ before t after r, p.tasks = before ++ t :: after ∧ ¬t.isDone ∧
      (∀ u ∈ before, u.source.isSome → u.source = t.source → u.isDone) ∧
      r.complete = t.finish p.state ∧ p.resume i = p.advance before.length r := by
  have hstarted : ∀ t, p.tasks[i]? = some t → t.phase ≠ .fresh := by
    intro t ht hfresh
    simpa [Task.isAdmitted, Task.isWaiting, hfresh] using h.arrived t (List.mem_of_getElem? ht)
  have hadvance : ∀ t r, p.tasks[i]? = some t → t.isAdmitted → ¬t.isDone →
      r.complete = t.finish p.state → p.resume i = p.advance i r →
      ∃ before t after r, p.tasks = before ++ t :: after ∧ ¬t.isDone ∧
        (∀ u ∈ before, u.source.isSome → u.source = t.source → u.isDone) ∧
        r.complete = t.finish p.state ∧ p.resume i = p.advance before.length r := by
    intro t r ht hin hunfinished hr hresume
    obtain ⟨before, after, hsplit, rfl⟩ := exists_split ht
    refine ⟨before, t, after, r, hsplit, hunfinished, fun u hu husome husource => ?_, hr, hresume⟩
    have hpairs := h.inOrder
    rw [hsplit] at hpairs
    exact (List.pairwise_append.mp hpairs).2.2 u hu t List.mem_cons_self husome husource hin
  obtain hstay | ⟨t, ht, hfresh, -⟩ | ⟨t, ht, ⟨hfresh, -⟩ | hphase, hstart⟩ |
    ⟨t, seconds, wake, ht, hphase, hwake⟩ := resume_cases p i
  · exact .inl hstay
  · exact absurd hfresh (hstarted t ht)
  · exact absurd hfresh (hstarted t ht)
  · refine .inr (hadvance t _ ht ?_ ?_ ?_ hstart)
    · simp [Task.isAdmitted, hphase]
    · simp [Task.isDone, hphase]
    · simp [Task.finish, hphase]
  · refine .inr (hadvance t _ ht ?_ ?_ ?_ hwake)
    · simp [Task.isAdmitted, hphase]
    · simp [Task.isDone, hphase]
    · simp [Task.finish, hphase]

/-- Giving any task a turn keeps the order. -/
theorem Orderly.resume {p : Pool σ α} (h : p.Orderly) (i : Nat) : (p.resume i).Orderly := by
  obtain hstay | ⟨before, t, after, r, hsplit, hunfinished, hfirst, -, hadvance⟩ := h.turn_cases i
  · rwa [hstay]
  · have hmem : ∀ {u}, u ∈ before ++ after → u ∈ p.tasks := fun hu => hsplit ▸ mem_split_of_mem hu
    rw [hadvance]
    exact .advance hsplit (fun u hu => h.arrived u (hmem hu)) h.inOrder
      (fun u hu => h.taken u (hmem hu)) hunfinished hfirst r

/-! ### Newcomers -/

/-- Whether somebody has a source or waits for it. -/
def isBusy (p : Pool σ α) (source : Option Text) : Bool :=
  p.tasks.any fun t => source.isSome && t.source == source && !t.isDone

/-- The first turn of a task that has just been posted. -/
theorem resume_post (p : Pool σ α) (source : Option Text) (start : Action σ α) :
    (p.post source start).resume p.tasks.length =
      if p.isBusy source then (p.post source start).setPhase p.tasks.length .waiting
      else (p.post source start).advance p.tasks.length (start p.state) := by
  have hget : (p.post source start).tasks[p.tasks.length]? = some ⟨source, start, .fresh⟩ := by
    simp [post]
  have htaken : (p.post source start).isTaken p.tasks.length = p.isBusy source := by
    unfold isTaken isBusy
    rw [hget]
    cases source <;> simp [post]
  rw [resume, hget]
  simp only [htaken]
  rfl

theorem isBusy_iff {p : Pool σ α} {source : Option Text} :
    p.isBusy source ↔ source.isSome ∧ ∃ t ∈ p.tasks, t.source = source ∧ ¬t.isDone := by
  simp only [isBusy, List.any_eq_true, Bool.and_eq_true, beq_iff_eq, Bool.not_eq_true',
    Bool.not_eq_true]
  constructor
  · rintro ⟨t, ht, ⟨hsome, hsource⟩, hunfinished⟩
    exact ⟨hsome, t, ht, hsource, hunfinished⟩
  · rintro ⟨hsome, t, ht, hsource, hunfinished⟩
    exact ⟨t, ht, ⟨hsome, hsource⟩, hunfinished⟩

/-- A busy source is somebody's. -/
theorem Orderly.exists_holder {p : Pool σ α} (h : p.Orderly) {source : Option Text}
    (hbusy : p.isBusy source) : source.isSome ∧ ∃ holder ∈ p.tasks, holder.Has source := by
  obtain ⟨hsome, t, ht, rfl, hunfinished⟩ := isBusy_iff.mp hbusy
  rcases h.arrived t ht with hin | hwaiting
  · exact ⟨hsome, t, ht, rfl, hin, hunfinished⟩
  · exact h.taken t ht hwaiting

/-- Posting a task and giving it its first turn keeps the order. -/
theorem Orderly.post {p : Pool σ α} (h : p.Orderly) (source : Option Text) (start : Action σ α) :
    ((p.post source start).resume p.tasks.length).Orderly := by
  have hsplit : (p.post source start).tasks = p.tasks ++ ⟨source, start, .fresh⟩ :: [] := rfl
  have hinOrder : ∀ t : Task σ α, ¬t.isAdmitted → (p.tasks ++ [t]).Pairwise Task.Precedes := by
    intro t hout
    refine List.pairwise_append.mpr ⟨h.inOrder, List.pairwise_singleton .., fun u _ v hv => ?_⟩
    exact fun _ _ hin => absurd (List.mem_singleton.mp hv ▸ hin) hout
  rw [resume_post]
  by_cases hbusy : p.isBusy source
  · rw [if_pos hbusy]
    obtain ⟨hsome, holder, hmem, hholder⟩ := h.exists_holder hbusy
    refine ⟨?_, ?_, ?_⟩ <;> rw [setPhase_tasks hsplit]
    · intro t ht
      rcases List.mem_append.mp ht with ht | ht
      · exact h.arrived t ht
      · exact .inr (List.mem_singleton.mp ht ▸ rfl)
    · exact hinOrder _ nofun
    · intro t ht hwaiting
      rcases List.mem_append.mp ht with ht | ht
      · obtain ⟨hsome, holder, hmem, hholder⟩ := h.taken t ht hwaiting
        exact ⟨hsome, holder, List.mem_append_left _ hmem, hholder⟩
      · rw [List.mem_singleton.mp ht]
        exact ⟨hsome, holder, List.mem_append_left _ hmem, hholder⟩
  · rw [if_neg hbusy]
    refine .advance hsplit ?_ (hinOrder _ nofun) ?_ nofun ?_ _
    · rw [List.append_nil]
      exact h.arrived
    · rw [List.append_nil]
      intro t ht hwaiting
      obtain ⟨hsome, holder, hmem, hholder⟩ := h.taken t ht hwaiting
      exact ⟨hsome, holder, List.mem_append_left _ hmem, hholder⟩
    · intro t ht hsome hsource
      have hsource : t.source = source := hsource
      refine Classical.byContradiction fun hunfinished => hbusy ?_
      exact isBusy_iff.mpr ⟨hsource ▸ hsome, t, ht, hsource, hunfinished⟩

theorem orderly_empty (s : σ) : (empty s : Pool σ α).Orderly where
  arrived _ ht := nomatch ht
  inOrder := .nil
  taken _ ht := nomatch ht

/-! ### Nobody waits for ever -/

/-- How many tasks have not ended. -/
def remaining (tasks : List (Task σ α)) : Nat := tasks.countP fun t => !t.isDone

theorem remaining_split (before after : List (Task σ α)) (t : Task σ α) :
    remaining (before ++ t :: after) =
      remaining (before ++ after) + if t.isDone then 0 else 1 := by
  unfold remaining
  rw [List.countP_append, List.countP_append, List.countP_cons, Nat.add_assoc]
  cases t.isDone <;> rfl

theorem remaining_callNext (p : Pool σ α) (source : Option Text) :
    remaining (p.callNext source).tasks = remaining p.tasks := by
  obtain ⟨htasks, -⟩ | ⟨before, t, after, hsplit, -, -, hwaiting, -, htasks⟩ :=
    callNext_cases p source
  · rw [htasks]
  · rw [htasks, hsplit, remaining_split, remaining_split]
    rw [if_neg (Task.not_isDone_of_isWaiting hwaiting), if_neg nofun]

section

variable {p : Pool σ α} {before after : List (Task σ α)} {t : Task σ α}

theorem remaining_asleep (hsplit : p.tasks = before ++ t :: after) (ht : ¬t.isDone)
    (seconds : Float) (s : σ) (wake : σ → Run σ α) :
    remaining (p.advance before.length (.asleep seconds s wake)).tasks = remaining p.tasks := by
  have hasleep : ¬({ t with phase := .asleep seconds wake } : Task σ α).isDone = true :=
    Bool.false_ne_true
  rw [Pool.advance, setPhase_tasks (p := { p with state := s }) hsplit, hsplit]
  rw [remaining_split, remaining_split, if_neg ht, if_neg hasleep]

theorem remaining_finished (hsplit : p.tasks = before ++ t :: after) (ht : ¬t.isDone)
    (outcome : Except Fault α) (s : σ) :
    remaining (p.advance before.length (.finished outcome s)).tasks + 1 = remaining p.tasks := by
  rw [Pool.advance, remaining_callNext, setPhase_tasks (p := { p with state := s }) hsplit, hsplit]
  rw [remaining_split, remaining_split, if_neg ht]
  rfl

end

/-- A task that goes on can be given turns until it has ended. -/
theorem exists_turns_of_advance (r : Run σ α) :
    ∀ {p : Pool σ α} {i : Nat} {t : Task σ α}, p.tasks[i]? = some t → ¬t.isDone →
      ∃ turns : List Nat,
        remaining (turns.foldl Pool.resume (p.advance i r)).tasks < remaining p.tasks := by
  induction r with
  | finished outcome s =>
      intro p i t ht hunfinished
      obtain ⟨before, after, hsplit, rfl⟩ := exists_split ht
      have hless := remaining_finished hsplit hunfinished outcome s
      exact ⟨[], by rw [List.foldl_nil]; omega⟩
  | asleep seconds s wake ih =>
      intro p i t ht hunfinished
      obtain ⟨before, after, hsplit, rfl⟩ := exists_split ht
      have htasks := setPhase_tasks (p := { p with state := s }) hsplit (.asleep seconds wake)
      have hasleep : (p.advance before.length (.asleep seconds s wake)).tasks[before.length]? =
          some { t with phase := .asleep seconds wake } := getElem?_split htasks
      obtain ⟨turns, hless⟩ := ih s hasleep nofun
      refine ⟨before.length :: turns, ?_⟩
      rw [remaining_asleep hsplit hunfinished] at hless
      rw [List.foldl_cons, Pool.resume, hasleep]
      exact hless

theorem Orderly.turns {p : Pool σ α} (h : p.Orderly) (turns : List Nat) :
    (turns.foldl Pool.resume p).Orderly := by
  induction turns generalizing p with
  | nil => exact h
  | cons i turns ih => exact ih (h.resume i)

/-- Unless all have ended, somebody can go on. -/
theorem Orderly.exists_advance {p : Pool σ α} (h : p.Orderly) {t : Task σ α} (ht : t ∈ p.tasks)
    (hunfinished : ¬t.isDone) :
    ∃ i holder r, p.tasks[i]? = some holder ∧ ¬holder.isDone ∧ p.resume i = p.advance i r := by
  obtain ⟨holder, hmem, hholder⟩ : ∃ holder ∈ p.tasks, holder.Has t.source := by
    rcases h.arrived t ht with hin | hwaiting
    · exact ⟨t, ht, rfl, hin, hunfinished⟩
    · exact (h.taken t ht hwaiting).2
  obtain ⟨i, hi⟩ := List.getElem?_of_mem hmem
  cases hphase : holder.phase with
  | fresh => simpa [Task.isAdmitted, hphase] using hholder.admitted
  | waiting => simpa [Task.isAdmitted, hphase] using hholder.admitted
  | called =>
      refine ⟨i, holder, holder.start p.state, hi, hholder.unfinished, ?_⟩
      simp only [Pool.resume, hi, hphase]
  | asleep seconds wake =>
      refine ⟨i, holder, wake p.state, hi, hholder.unfinished, ?_⟩
      simp only [Pool.resume, hi, hphase]
  | done outcome => simpa [Task.isDone, hphase] using hholder.unfinished

/-- **However far everything has come, there are turns after which all tasks have ended.** -/
theorem Orderly.exists_turns {p : Pool σ α} (h : p.Orderly) :
    ∃ turns : List Nat, ∀ t ∈ (turns.foldl Pool.resume p).tasks, t.isDone := by
  -- Whoever has a source is brought to an end; there are fewer left then.
  induction hn : remaining p.tasks using Nat.strongRecOn generalizing p with
  | _ n ih =>
      by_cases hall : ∀ t ∈ p.tasks, t.isDone
      · exact ⟨[], hall⟩
      · obtain ⟨t, hall⟩ := Classical.not_forall.mp hall
        obtain ⟨ht, hunfinished⟩ := Classical.not_imp.mp hall
        obtain ⟨i, holder, r, hi, hholder, hresume⟩ := h.exists_advance ht hunfinished
        obtain ⟨first, hless⟩ := exists_turns_of_advance r hi hholder
        rw [← hresume] at hless
        obtain ⟨later, hlater⟩ := ih _ (hn ▸ hless) ((h.resume i).turns first) rfl
        refine ⟨i :: first ++ later, ?_⟩
        rwa [List.foldl_append]

end Pool

end CardTalk
