import VoiceControl.Config.Manager
import VoiceControl.Proofs.Config.EnvironmentLayer
import VoiceControl.Proofs.Data.Reading
import Mathlib

/-!
# Precedence of the layers

For layers that agree on shape, the merged tree has at every path the leaf of the last layer that
defines one, in the order global file, project file, environment, overrides, and no other leaf. The
one exception is a leaf in the place of a section that the environment has variables for, when only
the files define it: it is dropped.
-/

namespace VoiceControl

open VoiceControl.Tree

namespace Config

/-- The layers of a configuration in the order in which they are laid over one another. -/
def layerList (global project : Entries Tree) (environment : Environment)
    (overrides : Option (Entries Tree)) : List (Entries Tree) :=
  [global, project, environmentLayer environment, overrides.getD []]

/-- The leaf at a path in the last of several layers that has one. -/
def lastLeaf? (layers : List (Entries Tree)) (path : List String) : Option Tree :=
  layers.reverse.findSome? fun layer => leaf? (.mapping layer) path

/-- No path is a mapping in one layer and a leaf in another. -/
def AgreeOnShape (layers : List (Entries Tree)) : Prop :=
  ∀ a ∈ layers, ∀ b ∈ layers, AgreesOnShape (.mapping a) (.mapping b)

theorem layered_eq (global project : Entries Tree) (environment : Environment)
    (overrides : Option (Entries Tree)) :
    layered global project environment overrides =
      merge (applyEnvironment environment (merge (merge [] global) project))
        (overrides.getD []) := by
  cases overrides with
  | none => simp [layered, merge_nil]
  | some layer => rfl

/-- Layers that stand for objects and agree on shape. -/
structure Consistent (global project : Entries Tree) (environment : Environment)
    (overrides : Option (Entries Tree)) : Prop where
  listedGlobal : Listed (.mapping global)
  listedProject : Listed (.mapping project)
  listedOverrides : Listed (.mapping (overrides.getD []))
  agree : AgreeOnShape (layerList global project environment overrides)

namespace Consistent

variable {global project : Entries Tree} {environment : Environment}
  {overrides : Option (Entries Tree)}

theorem lastLeaf?_eq (path : List String) :
    lastLeaf? (layerList global project environment overrides) path =
      (leaf? (.mapping (overrides.getD [])) path).or
        ((leaf? (.mapping (environmentLayer environment)) path).or
          ((leaf? (.mapping project) path).or (leaf? (.mapping global) path))) := by
  simp only [lastLeaf?, layerList, List.reverse_cons, List.reverse_nil, List.nil_append,
    List.cons_append, List.findSome?_cons, List.findSome?_nil]
  cases leaf? (.mapping (overrides.getD [])) path <;>
    cases leaf? (.mapping (environmentLayer environment)) path <;>
      cases leaf? (.mapping project) path <;> cases leaf? (.mapping global) path <;> rfl

/-- A layer fits over every other one. -/
theorem fits (h : Consistent global project environment overrides) {a b : Entries Tree}
    (ha : a ∈ layerList global project environment overrides)
    (hb : b ∈ layerList global project environment overrides) : Fits a b :=
  .of_agreesOnShape (h.agree a ha b hb)

/-- The leaves of the two files together. -/
theorem leaf?_files (h : Consistent global project environment overrides) (path : List String) :
    leaf? (.mapping (merge global project)) path =
      (leaf? (.mapping project) path).or (leaf? (.mapping global) path) :=
  leaf?_merge h.listedProject.ordered (h.fits (by simp [layerList]) (by simp [layerList])) path

/-- Every layer fits over the two files together. -/
theorem fits_files (h : Consistent global project environment overrides) {layer : Entries Tree}
    (mem : layer ∈ layerList global project environment overrides) :
    Fits (merge global project) layer := by
  have overProject : Fits project layer := h.fits (by simp [layerList]) mem
  have overGlobal : Fits global layer := h.fits (by simp [layerList]) mem
  refine overProject.of_leaves overGlobal fun {p v} found => ?_
  rw [h.leaf?_files, Option.or_eq_some_iff] at found
  exact found.imp_right And.right

/-- The environment laid over the files has the leaves of both, but none in the place of one of its
sections. -/
theorem leaf?_applied (h : Consistent global project environment overrides) {path : List String}
    (elsewhere : ∀ key ∈ environmentKeys, path ≠ [key]) :
    leaf? (.mapping (applyEnvironment environment (merge global project))) path =
      (leaf? (.mapping (environmentLayer environment)) path).or
        ((leaf? (.mapping project) path).or (leaf? (.mapping global) path)) := by
  rw [leaf?_applyEnvironment (h.fits_files (by simp [layerList])) elsewhere, h.leaf?_files]

theorem fits_applied (h : Consistent global project environment overrides) :
    Fits (applyEnvironment environment (merge global project)) (overrides.getD []) := by
  have overLayer : Fits (environmentLayer environment) (overrides.getD []) :=
    h.fits (by simp [layerList]) (by simp [layerList])
  have overFiles : Fits (merge global project) (overrides.getD []) :=
    h.fits_files (by simp [layerList])
  refine overLayer.of_leaves overFiles fun {p v} found => ?_
  by_cases own : ∃ key ∈ environmentKeys, p = [key]
  · obtain ⟨key, mem, rfl⟩ := own
    simp [leaf?_applyEnvironment_section mem] at found
  · rw [leaf?_applyEnvironment (h.fits_files (by simp [layerList])) (by simpa using own),
      Option.or_eq_some_iff] at found
    exact found.imp_right And.right

/-- The leaves of all layers: those of the overrides, and below them what the environment made of
the files. -/
theorem leaf?_layered (h : Consistent global project environment overrides)
    (path : List String) :
    leaf? (.mapping (layered global project environment overrides)) path =
      (leaf? (.mapping (overrides.getD [])) path).or
        (leaf? (.mapping (applyEnvironment environment (merge global project))) path) := by
  rw [layered_eq, merge_empty h.listedGlobal.ordered.here,
    leaf?_merge h.listedOverrides.ordered h.fits_applied]

/-- A leaf that the files have in the place of a section is hidden unless something is set there. -/
theorem leaf?_section (h : Consistent global project environment overrides) {key : String}
    (own : key ∈ environmentKeys)
    (unmasked : ¬ Masked (merge global project) (overrides.getD []) key) :
    (leaf? (.mapping (overrides.getD [])) [key]).or
        (leaf? (.mapping (merge global project)) [key]) =
      leaf? (.mapping (overrides.getD [])) [key] := by
  rw [leaf?_mapping_cons, leaf?_mapping_cons]
  cases set : Entries.get? key (overrides.getD []) with
  | none =>
      cases found : Entries.get? key (merge global project) with
      | none => rfl
      | some t =>
          cases shape : t.isMapping with
          | true =>
              obtain ⟨es, rfl⟩ := eq_mapping_of_isMapping shape
              simp
          | false => exact absurd ⟨own, ⟨t, found, shape⟩, set⟩ unmasked
  | some t =>
      cases shape : t.isMapping with
      | true =>
          obtain ⟨es, rfl⟩ := eq_mapping_of_isMapping shape
          have fits : Fits (merge global project) (overrides.getD []) :=
            h.fits_files (by simp [layerList])
          have := fits.mapping (p := [key]) (by rw [at?_cons, set]; exact at?_nil _)
          rw [leaf?_mapping_cons] at this
          simp [this]
      | false => simp [leaf?_nil_of_leaf shape]

/-- Away from what is masked, every leaf is that of the last layer that has one. -/
theorem leaf?_eq_last (h : Consistent global project environment overrides)
    {path : List String}
    (unmasked : ∀ key, path = [key] → ¬ Masked (merge global project) (overrides.getD []) key) :
    leaf? (.mapping (layered global project environment overrides)) path =
      lastLeaf? (layerList global project environment overrides) path := by
  rw [h.leaf?_layered, lastLeaf?_eq]
  by_cases own : ∃ key ∈ environmentKeys, path = [key]
  · obtain ⟨key, mem, rfl⟩ := own
    have last := h.leaf?_section mem (unmasked key rfl)
    rw [h.leaf?_files] at last
    rw [leaf?_applyEnvironment_section mem, leaf?_environmentLayer_section mem, Option.none_or,
      last, Option.or_none]
  · rw [h.leaf?_applied (by simpa using own)]

/-- A masked leaf is lost. -/
theorem leaf?_masked (h : Consistent global project environment overrides) {key : String}
    (masked : Masked (merge global project) (overrides.getD []) key) :
    leaf? (.mapping (layered global project environment overrides)) [key] = none ∧
      (lastLeaf? (layerList global project environment overrides) [key]).isSome := by
  obtain ⟨own, ⟨t, found, leaf⟩, unset⟩ := masked
  have lost : leaf? (.mapping (overrides.getD [])) [key] = none := by
    rw [leaf?_mapping_cons, unset]
    rfl
  have defined : (leaf? (.mapping project) [key]).or (leaf? (.mapping global) [key]) = some t := by
    rw [← h.leaf?_files, leaf?_mapping_cons, found]
    exact leaf?_nil_of_leaf leaf
  constructor
  · rw [h.leaf?_layered, lost, leaf?_applyEnvironment_section own]
    rfl
  · rw [lastLeaf?_eq, lost, leaf?_environmentLayer_section own, defined]
    rfl

end Consistent

end Config

namespace ConfigManager

open Config

variable {m : ConfigManager} {files : Files} {environment : Environment}
  {overrides : Option (Entries Tree)} {global project : Entries Tree}

/-- A configuration file is read as entries in order. -/
theorem ordered_readFile {path label : String} {es : Entries Tree}
    (h : readFile files path label = .ok es) : Ordered (.mapping es) := by
  simp only [readFile] at h
  split at h
  · cases h
    exact ordered_empty
  · simp at h
  · split at h
    · simp at h
    · rename_i parsed
      cases h
      exact Yaml.ordered_parse parsed
    · cases h
      exact ordered_empty

/-- What the check makes of a merged tree: its settings, or a failure that lists what is wrong. -/
theorem settle_eq (es : Entries Tree) :
    settle es =
      match Settings.check (.mapping es) with
      | .valid s => .ok s
      | .invalid issues =>
          .error (.configuration ("Invalid configuration: " ++ Issue.reportAll issues)
            (some (.invalidData (Issue.reportAll issues)))) := by
  unfold settle checked
  cases Settings.check (.mapping es) <;> rfl

theorem layers_eq (readGlobal : readFile files m.globalFile "global" = .ok global)
    (readProject : readFile files m.projectFile "project" = .ok project) :
    m.layers files environment overrides =
      .ok (layered global project environment overrides) := by
  simp only [layers, readGlobal, readProject, bind, Except.bind, pure, Except.pure]

/-- Loading settles the merged tree and keeps the settings. -/
theorem load_eq {es : Entries Tree} (merged : m.layers files environment overrides = .ok es) :
    m.load files environment overrides =
      (settle es).map fun s => (s, { m with loaded := some s }) := by
  simp only [load, merged, bind, Except.bind, pure, Except.pure]
  cases settle es <;> rfl

/-- Loading checks the tree that has, for each path, the leaf of the last layer that defines one;
only a leaf in the place of a section of the environment that nothing is set over is missing. No
layer sets what its objects inherit from. -/
theorem load_by_precedence (readGlobal : readFile files m.globalFile "global" = .ok global)
    (readProject : readFile files m.projectFile "project" = .ok project)
    (plain : ∀ es ∈ [global, project], Plain (.mapping es))
    (listed : Listed (.mapping (overrides.getD [])))
    (agree : AgreeOnShape (layerList global project environment overrides)) :
    ∃ tree, m.layers files environment overrides = .ok tree ∧
      (∀ path, (∀ key, path = [key] → ¬ Masked (merge global project) (overrides.getD []) key) →
        leaf? (.mapping tree) path =
          lastLeaf? (layerList global project environment overrides) path) ∧
      (∀ key, Masked (merge global project) (overrides.getD []) key →
        leaf? (.mapping tree) [key] = none ∧
          (lastLeaf? (layerList global project environment overrides) [key]).isSome) ∧
      m.load files environment overrides =
        match Settings.check (.mapping tree) with
        | .valid s => .ok (s, { m with loaded := some s })
        | .invalid issues =>
            .error (.configuration ("Invalid configuration: " ++ Issue.reportAll issues)
              (some (.invalidData (Issue.reportAll issues)))) := by
  have consistent : Consistent global project environment overrides :=
    ⟨⟨ordered_readFile readGlobal, plain _ (by simp)⟩,
      ⟨ordered_readFile readProject, plain _ (by simp)⟩, listed, agree⟩
  have merged : m.layers files environment overrides = _ := layers_eq readGlobal readProject
  refine ⟨_, merged, fun _ => consistent.leaf?_eq_last, fun _ => consistent.leaf?_masked, ?_⟩
  rw [load_eq merged, settle_eq]
  cases Settings.check _ <;> rfl

/-- A global and a project directory, nothing loaded yet. -/
def unloaded : ConfigManager := ⟨"proj", "glob", none⟩

/-- A global configuration file and no other file. -/
def globalOnly (content : String) : Files :=
  ⟨"/w", [("/w/glob/config.yaml", .file content 0)]⟩

theorem readFile_globalOnly {content : String} {es : Entries Tree}
    (parsed : Yaml.parse content = some (.mapping es)) :
    readFile (globalOnly content) unloaded.globalFile "global" = .ok es := by
  have path : Path.resolve "/w" (Path.join "glob" "config.yaml") = "/w/glob/config.yaml" := by
    decide +kernel
  have named : Path.join "glob" "config.yaml" ≠ "" := by decide +kernel
  have there : (globalOnly content).node? unloaded.globalFile = some (.file content 0) := by
    simp [Files.node?, globalFile, unloaded, Files.absolute, globalOnly, Files.at?, path, named]
  simp only [readFile, there, parsed]

theorem readFile_project_globalOnly (content : String) :
    readFile (globalOnly content) unloaded.projectFile "project" = .ok [] := by
  have path : Path.resolve "/w" (Path.join "proj" ".voxgrid.yaml") = "/w/proj/.voxgrid.yaml" := by
    decide +kernel
  have above : (Files.parents "/w").contains "/w/proj/.voxgrid.yaml" = false := by decide +kernel
  have missing : "/w/proj/.voxgrid.yaml" ∉ Files.parents "/w" := by simpa using above
  have there : (globalOnly content).node? unloaded.projectFile = none := by
    simp [Files.node?, projectFile, unloaded, Files.absolute, globalOnly, Files.at?, path, missing,
      List.lookup]
  simp only [readFile, there]

/-- Layers whose values at a path are mappings or not by the path alone agree on shape. -/
theorem agreeOnShape_of_paths {layers : List (Entries Tree)} (shape : List String → Bool)
    (h : ∀ layer ∈ layers, ∀ path t, at? (.mapping layer) path = some t →
      t.isMapping = shape path) : AgreeOnShape layers :=
  fun a ha b hb path s t hs ht => (h a ha path s hs).trans (h b hb path t ht).symm

theorem at?_single (k : String) (v : Tree) (key : String) (ks : List String) :
    at? (.mapping [(k, v)]) (key :: ks) = if key = k then at? v ks else none := by
  rw [at?_cons, Entries.get?_cons]
  split <;> rfl

/-- A layer with one leaf inside one section has mappings down to the leaf. -/
theorem isMapping_of_section {k l : String} {v : Tree} (leaf : v.isMapping = false)
    {path : List String} {t : Tree}
    (h : at? (.mapping [(k, .mapping [(l, v)])]) path = some t) :
    t.isMapping = decide (path.length < 2) := by
  match path with
  | [] =>
      cases h
      rfl
  | [_] =>
      rw [at?_single, at?_nil] at h
      split at h <;> cases h
      rfl
  | _ :: _ :: path =>
      rw [at?_single, at?_single] at h
      split at h <;> try split at h
      · cases path <;> simp_all [at?_cons_of_leaf leaf]
      all_goals cases h

/-- What holds of one leaf inside one section. -/
theorem throughout_section {P : Entries Tree → Prop} {k l : String} {v : Tree}
    (outer : P [(k, .mapping [(l, v)])]) (inner : P [(l, v)]) (leaf : Throughout P v) :
    Throughout P (.mapping [(k, .mapping [(l, v)])]) :=
  .mapping outer (List.forall_mem_singleton.2 (.mapping inner (List.forall_mem_singleton.2 leaf)))

theorem plain_width (n : Nat) :
    ∀ es ∈ [[("screen", .mapping [("width", .nat n)])], []], Plain (.mapping es) := by
  have file : Plain (.mapping [("screen", .mapping [("width", .nat n)])]) :=
    throughout_section (by simp [Entries.keys]) (by simp [Entries.keys]) (.number _)
  simpa using ⟨file, listed_empty.plain⟩

set_option maxRecDepth 4096 in
theorem parse_width : Yaml.parse "screen:\n  width: 1280\n" =
    some (.mapping [("screen", .mapping [("width", .nat 1280)])]) := by cbv

/-- A width from the global file, a height from the environment and another width on top. -/
theorem load_by_precedence_screen :
    ∃ tree,
      unloaded.layers (globalOnly "screen:\n  width: 1280\n") [("VOXGRID_SCREEN_HEIGHT", "900")]
          (some [("screen", .mapping [("width", .nat 800)])]) = .ok tree ∧
      leaf? (.mapping tree) ["screen", "width"] = some (.nat 800) ∧
      leaf? (.mapping tree) ["screen", "height"] = some (readNumber "900") := by
  let overrides : Option (Entries Tree) := some [("screen", .mapping [("width", .nat 800)])]
  have listed : Listed (.mapping (overrides.getD [])) :=
    ⟨throughout_section (by decide) (by decide) (.number _), plain_width 800 _ (by simp [overrides])⟩
  have agree : AgreeOnShape (layerList [("screen", .mapping [("width", .nat 1280)])] []
      [("VOXGRID_SCREEN_HEIGHT", "900")] overrides) := by
    refine agreeOnShape_of_paths (fun path => decide (path.length < 2)) ?_
    intro layer mem path t h
    have set : environmentLayer [("VOXGRID_SCREEN_HEIGHT", "900")] =
        [("screen", .mapping [("height", readNumber "900")])] := by rfl
    simp only [layerList, set, overrides, Option.getD_some, List.mem_cons, List.not_mem_nil,
      or_false] at mem
    rcases mem with rfl | rfl | rfl | rfl
    · exact isMapping_of_section rfl h
    · cases path with
      | nil => cases h; rfl
      | cons k ks => cases h
    · exact isMapping_of_section rfl h
    · exact isMapping_of_section rfl h
  obtain ⟨tree, merged, kept, -⟩ :=
    load_by_precedence (readFile_globalOnly parse_width) (readFile_project_globalOnly _)
      (plain_width 1280) listed agree
  exact ⟨tree, merged, kept _ (by simp), kept _ (by simp)⟩

/-- One word in the place of a section is lost, though nothing else defines it. -/
theorem load_drops_leaf :
    AgreeOnShape (layerList [("logging", .text "debug")] [] [] none) ∧
      lastLeaf? (layerList [("logging", .text "debug")] [] [] none) ["logging"] =
        some (.text "debug") ∧
      (∃ tree, unloaded.layers (globalOnly "logging: debug\n") [] none = .ok tree ∧
        leaf? (.mapping tree) ["logging"] = none) ∧
      ∃ s m, unloaded.load (globalOnly "logging: debug\n") [] none = .ok (s, m) := by
  have parsed : Yaml.parse "logging: debug\n" = some (.mapping [("logging", .text "debug")]) := by
    cbv
  have merged : unloaded.layers (globalOnly "logging: debug\n") [] none = _ :=
    layers_eq (readFile_globalOnly parsed) (readFile_project_globalOnly _)
  refine ⟨?_, by rfl, ⟨_, merged, by rfl⟩, ?_⟩
  · refine agreeOnShape_of_paths List.isEmpty fun layer mem path t h => ?_
    have : layer = [("logging", .text "debug")] ∨ layer = [] := by
      simpa [layerList, environmentLayer, environmentSections, setFrom, valueOf?] using mem
    cases path with
    | nil => cases h; rfl
    | cons k ks =>
        rcases this with rfl | rfl
        · rw [at?_single] at h
          split at h
          · cases ks with
            | nil => cases h; rfl
            | cons => cases h
          · cases h
        · cases h
  · rw [load_eq merged, settle_eq]
    exact ⟨_, _, rfl⟩

end ConfigManager

end VoiceControl
