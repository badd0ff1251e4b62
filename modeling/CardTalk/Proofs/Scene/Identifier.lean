/-
No identifier is handed out twice.

The serial number of an identifier can be read back from it: it stands behind the last dash,
since the digits of a numeral are no dashes (`make_serial`).  The identifiers of one count
therefore differ, whatever words they are made from (`issue_nodup`).  They are handed out while a
definition is read and later by the scene, which goes on with the same count (`handed_out_nodup`).

Identifiers that a definition gives are another matter.  A `Label` says where the identifier of
an entity comes from, and `Label.ids` is what a row of entities gets when they are met in this
order.
-/
import CardTalk.Scene.Definition
import Mathlib.Data.List.Nodup

namespace CardTalk

namespace Identifier

/-! ### Numerals -/

/-- The value of a digit. -/
def digitValue (c : Char) : Nat := ((List.range 36).map digit).idxOf c

/-- The number that a numeral denotes. -/
def value (t : Text) : Nat := t.foldl (fun v c => 36 * v + digitValue c) 0

theorem digitValue_digit {n : Nat} (h : n < 36) : digitValue (digit n) = n := by
  have hall : ∀ i : Fin 36, digitValue (digit i) = i := by decide
  exact hall ⟨n, h⟩

theorem digit_ne_dash {n : Nat} (h : n < 36) : digit n ≠ '-' := by
  have hall : ∀ i : Fin 36, digit i ≠ '-' := by decide
  exact hall ⟨n, h⟩

theorem value_append_digit (t : Text) {n : Nat} (h : n < 36) :
    value (t ++ [digit n]) = 36 * value t + n := by
  rw [value, List.foldl_append, List.foldl_cons, List.foldl_nil, digitValue_digit h]
  rfl

theorem value_numeralWith {fuel n : Nat} (h : n ≤ fuel) : value (numeralWith fuel n) = n := by
  induction fuel generalizing n with
  | zero =>
      obtain rfl := Nat.le_zero.mp h
      decide
  | succ fuel ih =>
      rw [numeralWith]
      split
      · rename_i hsmall
        have hdigit := value_append_digit [] hsmall
        rwa [List.nil_append, show value [] = 0 from rfl, Nat.mul_zero, Nat.zero_add] at hdigit
      · have hshorter : n / 36 ≤ fuel := by omega
        rw [value_append_digit _ (Nat.mod_lt n (by decide)), ih hshorter, Nat.div_add_mod]

theorem numeral_injective {m n : Nat} (h : numeral m = numeral n) : m = n := by
  have hm := value_numeralWith (Nat.le_refl m)
  have hn := value_numeralWith (Nat.le_refl n)
  rw [← hm, ← hn]
  exact congrArg value h

theorem dash_notMem_numeralWith (fuel n : Nat) : '-' ∉ numeralWith fuel n := by
  induction fuel generalizing n with
  | zero =>
      rw [numeralWith, List.mem_singleton]
      exact (digit_ne_dash (Nat.mod_lt n (by decide))).symm
  | succ fuel ih =>
      rw [numeralWith]
      split
      · rename_i hsmall
        rw [List.mem_singleton]
        exact (digit_ne_dash hsmall).symm
      · rw [List.mem_append, List.mem_singleton, not_or]
        exact ⟨ih _, (digit_ne_dash (Nat.mod_lt n (by decide))).symm⟩

/-! ### Identifiers -/

theorem make_ne_nil (word : Text) (serial : Nat) : make word serial ≠ [] :=
  List.append_ne_nil_of_right_ne_nil _ (List.cons_ne_nil _ _)

/-- The serial number can be read off an identifier. -/
theorem make_serial {word word' : Text} {i j : Nat} (h : make word i = make word' j) : i = j := by
  have hlast : ∀ (w : Text) (k : Nat),
      (make w k).reverse.takeWhile (· != '-') = (numeral k).reverse := by
    intro w k
    have hpass : ∀ c ∈ (numeral k).reverse, (c != '-') = true := by
      intro c hc
      have hne : c ≠ '-' := fun heq =>
        dash_notMem_numeralWith k k (heq ▸ List.mem_reverse.mp hc)
      simpa using hne
    rw [make, List.reverse_append, List.reverse_cons, List.append_assoc,
      List.takeWhile_append_of_pos hpass, List.singleton_append,
      List.takeWhile_cons_of_neg (by decide), List.append_nil]
  refine numeral_injective (List.reverse_injective ?_)
  rw [← hlast word i, ← hlast word' j, h]

theorem issue_append (issued : Nat) (words words' : List Text) :
    issue issued (words ++ words') =
      issue issued words ++ issue (issued + words.length) words' := by
  induction words generalizing issued with
  | nil => rfl
  | cons word words ih =>
      rw [List.cons_append, issue, ih, issue, List.cons_append, List.length_cons, Nat.add_assoc,
        Nat.add_comm 1]

theorem mem_issue {issued : Nat} {words : List Text} {id : Text} (h : id ∈ issue issued words) :
    ∃ word serial, issued < serial ∧ id = make word serial := by
  induction words generalizing issued with
  | nil => exact nomatch h
  | cons word words ih =>
      rcases List.mem_cons.mp h with rfl | h
      · exact ⟨word, issued + 1, Nat.lt_succ_self _, rfl⟩
      · obtain ⟨word, serial, hlt, heq⟩ := ih h
        exact ⟨word, serial, Nat.lt_of_succ_lt hlt, heq⟩

/-- **No two identifiers that are handed out one after another are the same.** -/
theorem issue_nodup (issued : Nat) (words : List Text) : (issue issued words).Nodup := by
  induction words generalizing issued with
  | nil => exact List.nodup_nil
  | cons word words ih =>
      refine List.nodup_cons.mpr ⟨fun h => ?_, ih _⟩
      obtain ⟨word', serial, hlt, heq⟩ := mem_issue h
      exact absurd (make_serial heq) (Nat.ne_of_lt hlt)

/-- Whatever keeps the count, what hands out the next identifier for a word hands out those for
many words in a row. -/
theorem run_mapM {σ : Type} {m : Type → Type} [Monad m] [LawfulMonad m]
    {handOut : Text → StateT σ m Text} (state : Nat → σ)
    (h : ∀ word n, (handOut word).run (state n) = pure (make word (n + 1), state (n + 1)))
    (issued : Nat) (words : List Text) :
    (words.mapM handOut).run (state issued) =
      pure (issue issued words, state (issued + words.length)) := by
  induction words generalizing issued with
  | nil => simp [issue]
  | cons word words ih =>
      have hlength : issued + (word :: words).length = issued + 1 + words.length := by
        rw [List.length_cons]
        omega
      rw [hlength]
      simp [List.mapM_cons, issue, h, ih]

/-- **No identifier is handed out twice**, whatever words are asked for and however many: neither
while a definition is read nor by the scene, which goes on where the definition has stopped. -/
theorem handed_out_nodup (issued : Nat) (words words' : List Text) (s : Scene) :
    ∃ ids ids' : List Text,
      (words.mapM Reading.freshId).run issued = .ok (ids, issued + words.length) ∧
      (words'.mapM fun word => (modifyGet (·.issueId word) : StateM Scene Text)).run
          { s with issued := issued + words.length } =
        (ids', { s with issued := issued + words.length + words'.length }) ∧
      ids ++ ids' = issue issued (words ++ words') ∧ (ids ++ ids').Nodup := by
  have hread : (words.mapM Reading.freshId).run issued =
      .ok (issue issued words, issued + words.length) :=
    run_mapM id (fun _ _ => rfl) issued words
  have hscene : (words'.mapM fun word => (modifyGet (·.issueId word) : StateM Scene Text)).run
      { s with issued := issued + words.length } =
        (issue (issued + words.length) words',
          { s with issued := issued + words.length + words'.length }) :=
    run_mapM (m := Id) (fun n => { s with issued := n }) (fun _ _ => rfl) _ words'
  have hall := issue_append issued words words'
  exact ⟨_, _, hread, hscene, hall.symm, hall ▸ issue_nodup issued (words ++ words')⟩

/-- An identifier that is handed out has a dash. -/
theorem dash_mem_of_mem_issue {issued : Nat} {words : List Text} {id : Text}
    (h : id ∈ issue issued words) : '-' ∈ id := by
  obtain ⟨word, serial, -, rfl⟩ := mem_issue h
  exact List.mem_append_right _ List.mem_cons_self

end Identifier

/-! ### Given and made identifiers -/

/-- Where the identifier of an entity comes from: it is given, or made from a word. -/
inductive Label where
  | given (id : Text)
  | made (word : Text)
  deriving DecidableEq

namespace Label

/-- The identifiers that are given. -/
def givens : List Label → List Text
  | [] => []
  | given id :: rest => id :: givens rest
  | made _ :: rest => givens rest

/-- The words from which identifiers are made. -/
def words : List Label → List Text
  | [] => []
  | given _ :: rest => words rest
  | made word :: rest => word :: words rest

/-- The identifiers of a row of entities when `issued` have been handed out before. -/
def ids (issued : Nat) : List Label → List Text
  | [] => []
  | given id :: rest => id :: ids issued rest
  | made word :: rest => Identifier.make word (issued + 1) :: ids (issued + 1) rest

theorem words_append (labels labels' : List Label) :
    words (labels ++ labels') = words labels ++ words labels' := by
  induction labels with
  | nil => rfl
  | cons label labels ih => cases label <;> simp [words, ih]

theorem ids_append (issued : Nat) (labels labels' : List Label) :
    ids issued (labels ++ labels') =
      ids issued labels ++ ids (issued + (words labels).length) labels' := by
  induction labels generalizing issued with
  | nil => rfl
  | cons label labels ih =>
      cases label with
      | given id => rw [List.cons_append, ids, ih, ids, words, List.cons_append]
      | made word =>
          rw [List.cons_append, ids, ih, ids, words, List.cons_append, List.length_cons,
            Nat.add_assoc, Nat.add_comm 1]

theorem ids_perm (issued : Nat) (labels : List Label) :
    (ids issued labels).Perm (givens labels ++ Identifier.issue issued (words labels)) := by
  induction labels generalizing issued with
  | nil => exact .refl _
  | cons label labels ih =>
      cases label with
      | given id => exact (ih issued).cons id
      | made word => exact ((ih _).cons _).trans List.perm_middle.symm

end Label

end CardTalk
