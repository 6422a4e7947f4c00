import VoiceControl.Proofs.Config.Leaves

/-!
# The environment as a layer

The variables that are set make up a layer with at most four leaves in three sections. Laying it
over the files merges it into them, except that each of the three sections is a mapping afterwards:
one that the files lack is there and empty, and a leaf in its place is gone.
-/

namespace VoiceControl

namespace Config

open VoiceControl.Tree

/-- The sections that the environment has variables for. -/
def environmentKeys : List String := ["screen", "logging", "textProcessing"]

/-- What the variables set in each section. -/
def environmentSections (environment : Environment) : Entries (Entries Tree) :=
  [("screen", setFrom environment "VOXGRID_SCREEN_HEIGHT" "height" readNumber
      (setFrom environment "VOXGRID_SCREEN_WIDTH" "width" readNumber [])),
    ("logging", setFrom environment "VOXGRID_LOG_LEVEL" "level" Tree.text []),
    ("textProcessing",
      setFrom environment "VOXGRID_COMMAND_ONLY" "commandOnlyMode" readSwitch [])]

/-- The layer that the variables make up: the sections in which one is set. -/
def environmentLayer (environment : Environment) : Entries Tree :=
  ((environmentSections environment).filter fun s => !s.2.isEmpty).map fun s => (s.1, .mapping s.2)

/-- The names of the variables. -/
def variableNames : List String :=
  ["VOXGRID_SCREEN_WIDTH", "VOXGRID_SCREEN_HEIGHT", "VOXGRID_LOG_LEVEL", "VOXGRID_COMMAND_ONLY"]

/-- No variable is set to anything. -/
def Silent (environment : Environment) : Prop :=
  ∀ name ∈ variableNames, valueOf? environment name = none

/-- A leaf of the files stands in the place of a section of the environment, and nothing is set
over it. -/
def Masked (files overrides : Entries Tree) (key : String) : Prop :=
  key ∈ environmentKeys ∧ (∃ t, Entries.get? key files = some t ∧ t.isMapping = false) ∧
    Entries.get? key overrides = none

section Sections

variable (environment : Environment) {name name' key key' : String} {read : String → Tree}

/-- A variable sets one leaf over the entries of its section. -/
theorem setFrom_eq_merge (name key : String) (leaf : ∀ v, (read v).isMapping = false)
    (within : Entries Tree) :
    setFrom environment name key read within =
      merge within (setFrom environment name key read []) := by
  cases h : valueOf? environment name with
  | none => simp only [setFrom, h, merge_nil]
  | some v =>
      have alone : Entries.insert key (read v) [] = [(key, read v)] := rfl
      simp only [setFrom, h, alone, merge_cons, merge_nil, overlayValue_of_leaf (leaf v)]

/-- A second variable sets another leaf of the section. -/
theorem setFrom_setFrom_eq_merge (ne : key ≠ key') (after : Entries.comesBefore key' key = false)
    (leaf : ∀ v, (read v).isMapping = false) (within : Entries Tree) :
    setFrom environment name' key' read (setFrom environment name key read within) =
      merge within
        (setFrom environment name' key' read (setFrom environment name key read [])) := by
  cases h : valueOf? environment name with
  | none => simpa only [setFrom, h] using setFrom_eq_merge environment name' key' leaf within
  | some v =>
      cases h' : valueOf? environment name' with
      | none =>
          simpa only [setFrom, h, h'] using setFrom_eq_merge environment name key leaf within
      | some v' =>
          have alone : Entries.insert key (read v) [] = [(key, read v)] := rfl
          have both : Entries.insert key' (read v') [(key, read v)] =
              [(key, read v), (key', read v')] :=
            Entries.insert_eq_append (by simpa using ⟨ne, after⟩)
          simp only [setFrom, h, h', alone, both, merge_cons, merge_nil,
            overlayValue_of_leaf (leaf _)]

theorem ordered_setFrom (leaf : ∀ v, (read v).Ordered) {within : Entries Tree}
    (ordered : Ordered (.mapping within)) :
    Ordered (.mapping (setFrom environment name key read within)) := by
  unfold setFrom
  split
  · exact ordered.insert (leaf _)
  · exact ordered

end Sections

variable {environment : Environment} {key : String} {set : Entries Tree}

theorem get?_environmentSections_eq_none (h : key ∉ environmentKeys) :
    Entries.get? key (environmentSections environment) = none := by
  simp only [environmentKeys, List.mem_cons, List.not_mem_nil, or_false, not_or] at h
  simp [environmentSections, Entries.get?_cons, h]

theorem exists_get?_environmentSections (environment : Environment) (h : key ∈ environmentKeys) :
    ∃ set, Entries.get? key (environmentSections environment) = some set := by
  simp only [environmentKeys, List.mem_cons, List.not_mem_nil, or_false] at h
  rcases h with rfl | rfl | rfl <;> exact ⟨_, rfl⟩

theorem ordered_environmentSections
    (h : Entries.get? key (environmentSections environment) = some set) :
    Ordered (.mapping set) := by
  have mem := Entries.mem_of_get? h
  simp only [environmentSections, List.mem_cons, Prod.mk.injEq, List.not_mem_nil, or_false] at mem
  rcases mem with ⟨_, rfl⟩ | ⟨_, rfl⟩ | ⟨_, rfl⟩
  · exact ordered_setFrom _ (fun _ => .number _) (ordered_setFrom _ (fun _ => .number _) ordered_empty)
  · exact ordered_setFrom _ (fun _ => .text _) ordered_empty
  · exact ordered_setFrom _ (fun _ => .bool _) ordered_empty

/-- The non-empty ones of some sections, found by their keys. -/
theorem get?_nonEmpty {sections : Entries (Entries Tree)} (inOrder : sections.InOrder)
    (key : String) :
    Entries.get? key
        ((sections.filter fun s => !s.2.isEmpty).map fun s => (s.1, Tree.mapping s.2)) =
      (Entries.get? key sections).bind fun set =>
        if set.isEmpty then none else some (.mapping set) := by
  induction sections with
  | nil => rfl
  | cons s rest ih =>
      obtain ⟨k, set⟩ := s
      obtain ⟨first, inOrder⟩ := Entries.inOrder_cons.mp inOrder
      have ih := ih inOrder
      by_cases here : key = k
      · subst here
        have last : Entries.get? key rest = none :=
          Entries.get?_eq_none fun e he => (first e he).1
        cases empty : set.isEmpty <;> simp_all [Entries.get?_cons]
      · cases empty : set.isEmpty <;> simp_all [Entries.get?_cons]

/-- A section in which no variable is set is no part of the layer. -/
theorem get?_environmentLayer (environment : Environment) (key : String) :
    Entries.get? key (environmentLayer environment) =
      (Entries.get? key (environmentSections environment)).bind fun set =>
        if set.isEmpty then none else some (.mapping set) :=
  get?_nonEmpty (by simp [Entries.InOrder, environmentSections]; decide) key

/-- The environment leaves alone what it has no variables for. -/
theorem get?_applyEnvironment_of_notMem (h : key ∉ environmentKeys) (es : Entries Tree) :
    Entries.get? key (applyEnvironment environment es) = Entries.get? key es := by
  simp only [environmentKeys, List.mem_cons, List.not_mem_nil, or_false, not_or] at h
  obtain ⟨screen, logging, text⟩ := h
  simp only [applyEnvironment]
  rw [Entries.get?_insert_of_ne text, Entries.get?_insert_of_ne logging,
    Entries.get?_insert_of_ne screen]

/-- The environment merges its variables into a section, as far as this is a mapping. -/
theorem get?_applyEnvironment (h : Entries.get? key (environmentSections environment) = some set)
    (es : Entries Tree) :
    Entries.get? key (applyEnvironment environment es) =
      some (.mapping (merge (sectionEntries key es) set)) := by
  have number : ∀ v, (readNumber v).isMapping = false := fun _ => rfl
  have mem := Entries.mem_of_get? h
  simp only [environmentSections, List.mem_cons, Prod.mk.injEq, List.not_mem_nil, or_false] at mem
  simp only [applyEnvironment]
  rcases mem with ⟨rfl, rfl⟩ | ⟨rfl, rfl⟩ | ⟨rfl, rfl⟩
  · rw [Entries.get?_insert_of_ne (by decide), Entries.get?_insert_of_ne (by decide),
      Entries.get?_insert_self, setFrom_setFrom_eq_merge _ (by decide) (by decide) number]
  · rw [Entries.get?_insert_of_ne (by decide), Entries.get?_insert_self,
      setFrom_eq_merge _ _ _ fun _ => rfl]
  · rw [Entries.get?_insert_self, setFrom_eq_merge _ _ _ fun _ => rfl]

/-- Inside a section the leaves of the layer are those of what is set there. -/
theorem leaf?_environmentLayer_cons
    (h : Entries.get? key (environmentSections environment) = some set) (ks : List String) :
    leaf? (.mapping (environmentLayer environment)) (key :: ks) = leaf? (.mapping set) ks := by
  rw [leaf?_mapping_cons, get?_environmentLayer, h]
  cases set with
  | nil => simp
  | cons e es => simp

/-- No section of the layer is a leaf. -/
theorem leaf?_environmentLayer_section (h : key ∈ environmentKeys) :
    leaf? (.mapping (environmentLayer environment)) [key] = none := by
  obtain ⟨set, found⟩ := exists_get?_environmentSections environment h
  rw [leaf?_environmentLayer_cons found, leaf?_mapping_nil]

/-- The layer has no leaves but inside its sections. -/
theorem leaf?_environmentLayer_of_notMem (h : key ∉ environmentKeys) (ks : List String) :
    leaf? (.mapping (environmentLayer environment)) (key :: ks) = none := by
  rw [leaf?_mapping_cons, get?_environmentLayer, get?_environmentSections_eq_none h]
  rfl

theorem leaf?_sectionEntries (key : String) (es : Entries Tree) (k : String) (ks : List String) :
    leaf? (.mapping (sectionEntries key es)) (k :: ks) = leaf? (.mapping es) (key :: k :: ks) := by
  rw [leaf?_mapping_cons es, sectionEntries]
  cases found : Entries.get? key es with
  | none => simp
  | some t =>
      by_cases shape : t.isMapping
      · obtain ⟨cs, rfl⟩ := eq_mapping_of_isMapping shape
        rfl
      · have leaf : t.isMapping = false := by simpa using shape
        cases t with
        | mapping cs => simp at leaf
        | _ => simp [leaf?_cons_of_leaf leaf]

/-- Where the layer of the environment fits, it fits in each section. -/
theorem Fits.sectionEntries {es : Entries Tree} (fits : Fits es (environmentLayer environment))
    (h : Entries.get? key (environmentSections environment) = some set) :
    Fits (sectionEntries key es) set := by
  by_cases nothing : set = []
  · subst nothing
    exact .empty_layer _
  · have inLayer : Entries.get? key (environmentLayer environment) = some (.mapping set) := by
      rw [get?_environmentLayer, h]
      simp [nothing]
    unfold Config.sectionEntries
    split
    · rename_i found
      exact fits.at_key found inLayer
    · exact .empty_below _

/-- With the environment laid over the files, no section of it is a leaf. -/
theorem leaf?_applyEnvironment_section (h : key ∈ environmentKeys) (es : Entries Tree) :
    leaf? (.mapping (applyEnvironment environment es)) [key] = none := by
  obtain ⟨set, found⟩ := exists_get?_environmentSections environment h
  rw [leaf?_mapping_cons, get?_applyEnvironment found]
  simp

/-- Everywhere else the environment is merged over the files. -/
theorem leaf?_applyEnvironment {es : Entries Tree} (fits : Fits es (environmentLayer environment))
    {path : List String} (elsewhere : ∀ key ∈ environmentKeys, path ≠ [key]) :
    leaf? (.mapping (applyEnvironment environment es)) path =
      (leaf? (.mapping (environmentLayer environment)) path).or (leaf? (.mapping es) path) := by
  cases path with
  | nil => simp
  | cons k ks =>
      by_cases own : k ∈ environmentKeys
      · obtain ⟨set, found⟩ := exists_get?_environmentSections environment own
        rw [leaf?_mapping_cons, get?_applyEnvironment found, leaf?_environmentLayer_cons found]
        cases ks with
        | nil => exact absurd rfl (elsewhere k own)
        | cons l ls =>
            rw [← leaf?_sectionEntries]
            exact leaf?_merge (ordered_environmentSections found) (fits.sectionEntries found) _
      · rw [leaf?_environmentLayer_of_notMem own, leaf?_mapping_cons, leaf?_mapping_cons,
          get?_applyEnvironment_of_notMem own]
        rfl

end Config

end VoiceControl
