/-
Loading a configuration twice is loading it once.

What has been loaded from a file is laid over the built-in configuration once more when an
engine is made of it.  `load_settles` says that this changes nothing, that the configuration
is the union of the built-in one and the file's, and that all this is so after any loads: no
load changes what the next one starts from.
-/
import CardTalk.Proofs.Config.Storage

namespace CardTalk.Config

open Data (Distinct IsUnion)

/-- Whether data are a single value. -/
def isValue : Data → Bool
  | .value _ => true
  | _ => false

/-- A section of single values. -/
theorem distinct_of_isValue {entries : Table Data} (hnames : (Table.names entries).Nodup)
    (h : entries.all fun e => isValue e.2) : (Data.mapping entries).Distinct := by
  refine .mapping hnames fun ⟨name, d⟩ he => ?_
  have hvalue := List.all_eq_true.mp h _ he
  cases d with
  | value v => exact .value v
  | list | mapping => exact absurd hvalue Bool.false_ne_true

theorem builtin_distinct : (Data.mapping builtin).Distinct := by
  refine .mapping (by decide) ?_
  simp only [builtin, List.forall_mem_cons]
  refine ⟨.value _, ?engine, ?scripting, ?api, ?logging, fun _ h => nomatch h⟩
  case engine | scripting | api | logging => exact distinct_of_isValue (by decide) rfl

/-- The configuration of a file that holds a mapping. -/
theorem ofFile_mapping (path : Text) (given : Table Data) :
    ofFile path [] (.mapping given) = .ok (Data.overlayEntries builtin given) := by
  have hgiven : Data.ofFile "Config" path (.mapping given) = .ok given := by
    cases given <;> rfl
  rw [ofFile, hgiven]
  rfl

/-- **A configuration loaded from a file is settled.**  It is the union of the built-in one and
the file's, an engine made of it has the same, and any loads before leave it so. -/
theorem load_settles (path : Text) {given : Table Data} (hgiven : (Data.mapping given).Distinct) :
    ∃ config, ofFile path [] (.mapping given) = .ok config ∧ load config [] = config ∧
      IsUnion (.mapping builtin) (.mapping given) (.mapping config) ∧
      ∀ {defaults : Nat} {s s' : Storage},
        s.read? (.place defaults) = some (.mapping builtin) → Storage.Loads defaults s s' →
          s'.read? (.place defaults) = some (.mapping builtin) ∧
          ∃ root s₁, loadAt defaults s' (.datum .null) given = some (root, s₁) ∧
            s₁.read? (.place root) = some (.mapping config) ∧
            ∃ root' s₂, loadAt defaults s₁ (.place root) [] = some (root', s₂) ∧
              s₂.read? (.place root') = some (.mapping config) := by
  have htwice : Data.overlayEntries builtin (Data.overlayEntries builtin given) =
      Data.overlayEntries builtin given := by
    have h := Data.overlay_overlay builtin_distinct hgiven
    rw [Data.overlay, Data.overlay] at h
    exact Data.mapping.inj h
  have hunion := Data.overlay_isUnion builtin_distinct hgiven
  rw [Data.overlay] at hunion
  refine ⟨_, ofFile_mapping path given, htwice, hunion, fun {defaults s s'} hbase hloads => ?_⟩
  have hbase' := (hloads.extends hbase).read? hbase
  obtain ⟨root, s₁, hload, hextends, hroot⟩ :=
    Storage.loadAt_eq hbase' (Storage.read?_datum .null) given
  obtain ⟨root', s₂, hload', -, hroot'⟩ := Storage.loadAt_eq (hextends.read? hbase') hroot []
  refine ⟨hbase', root, s₁, hload, hroot, root', s₂, hload', hroot'.trans ?_⟩
  exact congrArg (fun config => some (Data.mapping config)) htwice

/-- A file with a value for a section, a section for a value and one entry of a section. -/
theorem load_settles_crossing :
    let given : Table Data := [
      ("engine", .value (.int 5)),
      ("name", .mapping [("short", .value (.text "demo"))]),
      ("scripting", .mapping [("repeat_limit", .value (.int 3))])]
    (Data.mapping given).Distinct ∧
    ∃ config, ofFile "config.yaml" [] (.mapping given) = .ok config ∧ load config [] = config ∧
      IsUnion (.mapping builtin) (.mapping given) (.mapping config) ∧
      ∃ defaults s s', s.read? (.place defaults) = some (.mapping builtin) ∧
        Storage.Loads defaults s s' ∧ s'.read? (.place defaults) = some (.mapping builtin) ∧
        ∃ root s₁, loadAt defaults s' (.datum .null) given = some (root, s₁) ∧
          s₁.read? (.place root) = some (.mapping config) := by
  intro given
  have hgiven : (Data.mapping given).Distinct := by
    refine .mapping (by decide) ?_
    simp only [given, List.forall_mem_cons]
    refine ⟨.value _, ?name, ?scripting, fun _ h => nomatch h⟩
    case name | scripting => exact distinct_of_isValue (by decide) rfl
  obtain ⟨config, hconfig, htwice, hunion, hloads⟩ := load_settles "config.yaml" hgiven
  obtain ⟨-, places, hkept, hnodup, -⟩ := Storage.keep_holds [] (.mapping builtin)
  obtain ⟨defaults, s, hkeep⟩ : ∃ p s, Storage.keep [] (.mapping builtin) = (.place p, s) :=
    ⟨_, _, Storage.keep.eq_1 [] builtin⟩
  rw [hkeep] at hkept
  have hholds := hkept.read? hnodup
  -- the same file has been loaded once before
  obtain ⟨root, s', hload, -⟩ :=
    Storage.loadAt_eq hholds (Storage.read?_datum .null) given
  have hdone := Storage.Loads.none.load hload
  obtain ⟨hdefaults, root', s₁, hload', hroot, -⟩ := hloads hholds hdone
  exact ⟨hgiven, config, hconfig, htwice, hunion, defaults, s, s', hholds, hdone, hdefaults, root',
    s₁, hload', hroot⟩

end CardTalk.Config
