import VoiceControl.Proofs.Config.Precedence

/-!
# What the environment hides from the check

Without variables the environment should change nothing, and where the files have mappings in its
three sections, or nothing, it does not. A value of another kind there would be refused by the
check, but the environment has put an empty section in its place by then. So the check accepts the
plain merge of the layers exactly when loading succeeds and no such value was hidden.
-/

namespace VoiceControl

open VoiceControl.Tree

namespace Verdict

variable {α β : Type}

theorem both_eq_valid {f : Verdict (α → β)} {x : Verdict α} {b : β} :
    both f x = .valid b ↔ ∃ g a, f = .valid g ∧ x = .valid a ∧ b = g a := by
  cases f <;> cases x <;> simp [both, eq_comm]

/-- A combination is valid when both of its parts are. -/
theorem seq_eq_valid {f : Verdict (α → β)} {x : Verdict α} {b : β} :
    (f <*> x) = .valid b ↔ ∃ g a, f = .valid g ∧ x = .valid a ∧ b = g a :=
  both_eq_valid

theorem map_eq_valid {f : α → β} {x : Verdict α} {b : β} :
    (f <$> x) = .valid b ↔ ∃ a, x = .valid a ∧ b = f a := by
  show both (.valid f) x = .valid b ↔ _
  simp [both_eq_valid]

end Verdict

/-- The value of a section is a mapping if it is there at all. -/
theorem Check.isMapping_of_sectionOf {α : Type} {key : String}
    {check : List PathStep → Entries Tree → Verdict α} {path : List PathStep} {es : Entries Tree}
    {a : α} (valid : Check.sectionOf key check path es = .valid a) {t : Tree}
    (found : Entries.get? key es = some t) : t.isMapping = true := by
  cases t with
  | mapping cs => rfl
  | _ => simp [Check.sectionOf, Check.fields, found] at valid

namespace Settings

/-- The names of the sections. -/
def sectionNames : List String :=
  ["screen", "grid", "overlays", "parser", "textProcessing", "customCommands", "screenshots",
    "logging"]

/-- The check reads nothing but the sections, and a missing one as an empty one. -/
theorem check_congr {a b : Entries Tree}
    (same : ∀ key, (Entries.get? key a).getD (.mapping []) =
      (Entries.get? key b).getD (.mapping [])) :
    check (.mapping a) = check (.mapping b) := by
  simp only [check, Check.fields, Check.sectionOf, same]

/-- In a tree that passes the check, every section is a mapping. -/
theorem isMapping_of_check {es : Entries Tree} {s : Settings}
    (valid : check (.mapping es) = .valid s) {key : String} (mem : key ∈ sectionNames) {t : Tree}
    (found : Entries.get? key es = some t) : t.isMapping = true := by
  simp only [check, Check.fields, Verdict.seq_eq_valid, Verdict.map_eq_valid] at valid
  obtain ⟨_, _, ⟨_, _, ⟨_, _, ⟨_, _, ⟨_, _, ⟨_, _, ⟨_, _, ⟨_, screen, _⟩, grid, _⟩, overlays, _⟩,
    parser, _⟩, text, _⟩, custom, _⟩, screenshots, _⟩, logging, _⟩ := valid
  simp only [sectionNames, List.mem_cons, List.not_mem_nil, or_false] at mem
  rcases mem with rfl | rfl | rfl | rfl | rfl | rfl | rfl | rfl
  · exact Check.isMapping_of_sectionOf screen found
  · exact Check.isMapping_of_sectionOf grid found
  · exact Check.isMapping_of_sectionOf overlays found
  · exact Check.isMapping_of_sectionOf parser found
  · exact Check.isMapping_of_sectionOf text found
  · exact Check.isMapping_of_sectionOf custom found
  · exact Check.isMapping_of_sectionOf screenshots found
  · exact Check.isMapping_of_sectionOf logging found

end Settings

namespace Config

variable {environment : Environment} {files overrides : Entries Tree} {key : String}

/-- The plain merge of both files and the overrides. -/
def plainMerge (global project : Entries Tree) (overrides : Option (Entries Tree)) :
    Entries Tree :=
  merge (merge global project) (overrides.getD [])

/-- Without variables there is nothing to set in a section. -/
theorem environmentSections_of_silent (silent : Silent environment) {set : Entries Tree}
    (h : Entries.get? key (environmentSections environment) = some set) : set = [] := by
  have mem := Entries.mem_of_get? h
  simp only [environmentSections, List.mem_cons, Prod.mk.injEq, List.not_mem_nil, or_false] at mem
  have unset : ∀ name ∈ variableNames, ∀ key read, setFrom environment name key read [] = [] :=
    fun name named key read => by simp [setFrom, silent name named]
  rcases mem with ⟨_, rfl⟩ | ⟨_, rfl⟩ | ⟨_, rfl⟩
  · rw [unset _ (by decide), unset _ (by decide)]
  · exact unset _ (by decide) _ _
  · exact unset _ (by decide) _ _

/-- Without variables the sections of the environment are what the files have of them. -/
theorem get?_applyEnvironment_of_silent (silent : Silent environment)
    (own : key ∈ environmentKeys) :
    Entries.get? key (applyEnvironment environment files) =
      some (.mapping (sectionEntries key files)) := by
  obtain ⟨set, found⟩ := exists_get?_environmentSections environment own
  rw [get?_applyEnvironment found, environmentSections_of_silent silent found, merge_nil]

theorem sectionEntries_of_none (absent : Entries.get? key files = none) :
    sectionEntries key files = [] := by
  simp [sectionEntries, absent]

theorem sectionEntries_of_leaf {t : Tree} (found : Entries.get? key files = some t)
    (leaf : t.isMapping = false) : sectionEntries key files = [] := by
  cases t with
  | mapping cs => simp at leaf
  | _ => simp [sectionEntries, found]

/-- A mapping is merged over a section, and over anything else as over an empty one. -/
theorem overlayValue_eq_mapping {es : Entries Tree} (inOrder : es.InOrder) :
    overlayValue (Entries.get? key files) (.mapping es) =
      .mapping (merge (sectionEntries key files) es) := by
  cases found : Entries.get? key files with
  | none => rw [overlayValue_none, sectionEntries_of_none found, merge_empty inOrder]
  | some t =>
      cases shape : t.isMapping with
      | false =>
          rw [overlayValue_over_leaf shape, sectionEntries_of_leaf found shape,
            merge_empty inOrder]
      | true =>
          obtain ⟨cs, rfl⟩ := eq_mapping_of_isMapping shape
          simp only [overlayValue_over_mapping, sectionEntries, found]

/-- Unless it is masked, a section is the same with the environment and without. -/
theorem section_of_silent (silent : Silent environment) (ordered : Ordered (.mapping overrides))
    (unmasked : ¬ Masked files overrides key) :
    (Entries.get? key (merge (applyEnvironment environment files) overrides)).getD (.mapping []) =
      (Entries.get? key (merge files overrides)).getD (.mapping []) := by
  by_cases own : key ∈ environmentKeys
  · rw [get?_merge ordered.here, get?_merge ordered.here,
      get?_applyEnvironment_of_silent silent own]
    cases set : Entries.get? key overrides with
    | none =>
        cases found : Entries.get? key files with
        | none => simp [sectionEntries_of_none found]
        | some t =>
            cases shape : t.isMapping with
            | false => exact absurd ⟨own, ⟨t, found, shape⟩, set⟩ unmasked
            | true =>
                obtain ⟨cs, rfl⟩ := eq_mapping_of_isMapping shape
                simp [sectionEntries, found]
    | some t =>
        cases shape : t.isMapping with
        | false => simp only [overlayValue_of_leaf shape]
        | true =>
            obtain ⟨es, rfl⟩ := eq_mapping_of_isMapping shape
            have inOrder := (ordered.of_get? set).here
            simp only [overlayValue_over_mapping, overlayValue_eq_mapping inOrder]
  · rw [get?_merge_congr (get?_applyEnvironment_of_notMem own files)]

/-- A masked section is an empty one with the environment. -/
theorem section_of_masked (silent : Silent environment) (ordered : Ordered (.mapping overrides))
    (masked : Masked files overrides key) :
    (Entries.get? key (merge (applyEnvironment environment files) overrides)).getD (.mapping []) =
      .mapping [] := by
  obtain ⟨own, ⟨t, found, leaf⟩, unset⟩ := masked
  rw [get?_merge ordered.here, unset, get?_applyEnvironment_of_silent silent own]
  simp [sectionEntries_of_leaf found leaf]

/-- A masked section makes the plain merge fail the check. -/
theorem not_valid_of_masked (ordered : Ordered (.mapping overrides))
    (masked : Masked files overrides key) (s : Settings) :
    Settings.check (.mapping (merge files overrides)) ≠ .valid s := by
  intro valid
  obtain ⟨own, ⟨t, found, leaf⟩, unset⟩ := masked
  have there : Entries.get? key (merge files overrides) = some t := by
    rw [get?_merge ordered.here, unset, found]
  have named : key ∈ Settings.sectionNames := by
    have : environmentKeys ⊆ Settings.sectionNames := by decide
    exact this own
  simp [Settings.isMapping_of_check valid named there] at leaf

end Config

namespace ConfigManager

open Config

variable {m : ConfigManager} {files : Files} {environment : Environment}
  {overrides : Option (Entries Tree)} {global project : Entries Tree}

/-- Without variables, loading checks the plain merge without what is masked. -/
theorem load_of_silent (readGlobal : readFile files m.globalFile "global" = .ok global)
    (readProject : readFile files m.projectFile "project" = .ok project)
    (listedGlobal : Listed (.mapping global)) (listed : Listed (.mapping (overrides.getD [])))
    (silent : Silent environment)
    {es : Entries Tree}
    (kept : ∀ key, ¬ Masked (merge global project) (overrides.getD []) key →
      Entries.get? key es = Entries.get? key (plainMerge global project overrides))
    (dropped : ∀ key, Masked (merge global project) (overrides.getD []) key →
      Entries.get? key es = none) :
    m.load files environment overrides =
      (settle es).map fun s => (s, { m with loaded := some s }) := by
  have same : ∀ key,
      (Entries.get? key (layered global project environment overrides)).getD (.mapping []) =
        (Entries.get? key es).getD (.mapping []) := by
    intro key
    rw [layered_eq, merge_empty listedGlobal.ordered.here]
    by_cases masked : Masked (merge global project) (overrides.getD []) key
    · rw [section_of_masked silent listed.ordered masked, dropped key masked]
      rfl
    · rw [section_of_silent silent listed.ordered masked, kept key masked, plainMerge]
  rw [load_eq (layers_eq readGlobal readProject), settle_eq, settle_eq, Settings.check_congr same]

/-- Without variables, the plain merge is accepted exactly when loading succeeds and nothing is
masked, with the same settings; where nothing is masked, loading is checking the plain merge. No
layer sets what its objects inherit from. -/
theorem load_without_variables (readGlobal : readFile files m.globalFile "global" = .ok global)
    (readProject : readFile files m.projectFile "project" = .ok project)
    (plain : ∀ es ∈ [global, project], Plain (.mapping es))
    (listed : Listed (.mapping (overrides.getD []))) (silent : Silent environment) :
    (∀ s, Settings.check (.mapping (plainMerge global project overrides)) = .valid s ↔
      m.load files environment overrides = .ok (s, { m with loaded := some s }) ∧
        ∀ key, ¬ Masked (merge global project) (overrides.getD []) key) ∧
    ((∀ key, ¬ Masked (merge global project) (overrides.getD []) key) →
      m.load files environment overrides =
        (settle (plainMerge global project overrides)).map
          fun s => (s, { m with loaded := some s })) := by
  have listedGlobal : Listed (.mapping global) :=
    ⟨ordered_readFile readGlobal, plain _ (by simp)⟩
  have plain : (∀ key, ¬ Masked (merge global project) (overrides.getD []) key) →
      m.load files environment overrides =
        (settle (plainMerge global project overrides)).map
          fun s => (s, { m with loaded := some s }) :=
    fun unmasked => load_of_silent readGlobal readProject listedGlobal listed silent
      (fun _ _ => rfl) fun key masked => absurd masked (unmasked key)
  refine ⟨fun s => ⟨fun valid => ?_, fun ⟨loaded, unmasked⟩ => ?_⟩, plain⟩
  · have unmasked : ∀ key, ¬ Masked (merge global project) (overrides.getD []) key :=
      fun key masked => not_valid_of_masked listed.ordered masked s valid
    refine ⟨?_, unmasked⟩
    rw [plain unmasked, settle_eq, valid]
    rfl
  · rw [plain unmasked, settle_eq] at loaded
    cases checked : Settings.check (.mapping (plainMerge global project overrides)) with
    | valid s' =>
        rw [checked] at loaded
        cases loaded
        rfl
    | invalid issues =>
        rw [checked] at loaded
        cases loaded

/-- A width in the global file. -/
theorem load_without_variables_width :
    ∃ s, unloaded.load (globalOnly "screen:\n  width: 1280\n") [] none =
        .ok (s, { unloaded with loaded := some s }) ∧ s.screen.width = 1280 := by
  have silent : Silent [] := fun _ _ => rfl
  have valid : ∃ s, Settings.check (.mapping (plainMerge
      [("screen", .mapping [("width", .nat 1280)])] [] none)) = .valid s ∧
        s.screen.width = 1280 := ⟨_, rfl, rfl⟩
  obtain ⟨s, valid, width⟩ := valid
  have listed : Listed (.mapping ((none : Option (Entries Tree)).getD [])) := listed_empty
  have plain := (load_without_variables (readFile_globalOnly parse_width)
    (readFile_project_globalOnly _) (plain_width 1280) listed silent).1 s
  exact ⟨s, (plain.mp valid).1, width⟩

/-- A size in one word in the place of a section: loading succeeds, though the check refuses the
plain merge. -/
theorem load_hides_invalid_section :
    (∃ r, unloaded.load (globalOnly "screen: 800x600\n") [] none = .ok r) ∧
      readFile (globalOnly "screen: 800x600\n") unloaded.globalFile "global" =
        .ok [("screen", .text "800x600")] ∧
      readFile (globalOnly "screen: 800x600\n") unloaded.projectFile "project" = .ok [] ∧
      ∀ s, Settings.check (.mapping (plainMerge [("screen", .text "800x600")] [] none)) ≠
        .valid s := by
  have parsed : Yaml.parse "screen: 800x600\n" = some (.mapping [("screen", .text "800x600")]) := by
    cbv
  have merged : unloaded.layers (globalOnly "screen: 800x600\n") [] none = _ :=
    layers_eq (readFile_globalOnly parsed) (readFile_project_globalOnly _)
  refine ⟨?_, readFile_globalOnly parsed, readFile_project_globalOnly _, fun s => ?_⟩
  · rw [load_eq merged, settle_eq]
    exact ⟨_, rfl⟩
  · have masked : Masked [("screen", .text "800x600")] [] "screen" :=
      ⟨by decide, ⟨_, rfl, rfl⟩, rfl⟩
    have plain : plainMerge [("screen", .text "800x600")] [] none =
        merge [("screen", .text "800x600")] [] := by
      rw [plainMerge, merge_nil]
      rfl
    rw [plain]
    exact not_valid_of_masked ordered_empty masked s

end ConfigManager

end VoiceControl
