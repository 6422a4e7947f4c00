import VoiceControl.Files
import VoiceControl.Proofs.Files.Paths
import Mathlib.Algebra.Order.Ring.Rat

/-!
# The files of a directory

A listing of a directory is compared with what its paths denote: it has exactly the files that are
found under an accepted name in the directory, each of them once, and the one that was modified last
comes first.

* `WellFormed`: one thing stands at a path, and the times of modification are ordinary values.
* `Holds`: that a listing is to have a file.
* `WellFormed.newestFirst_strictly`: what a listing has, and in which order.
-/

namespace VoiceControl

/-- On ordinary values, the order of numbers is that of the values. -/
theorem Number.le_finite (p q : Rat) : (Number.finite p).le (.finite q) = decide (p ≤ q) := by
  show (!decide (q < p)) = _
  rw [← decide_not, decide_eq_decide]
  exact not_lt

theorem Number.lt_of_le_of_ne {a b : Number} (le : a.le b = true) (ne : a ≠ b) :
    a.lt b = true := by
  cases a with
  | nan => cases le
  | finite p =>
      cases b with
      | nan => cases le
      | infinite up => cases up <;> first | rfl | cases le
      | finite q =>
          rw [Number.le_finite, decide_eq_true_iff] at le
          exact decide_eq_true (le.lt_of_ne fun same => ne (congrArg finite same))
  | infinite up =>
      cases b with
      | nan => cases le
      | finite q => cases up <;> first | rfl | cases le
      | infinite up' => cases up <;> cases up' <;> first | rfl | exact absurd rfl ne | cases le

/-- When a file was modified, as an ordinary value. -/
def FileEntry.time (e : FileEntry) : Rat := e.modified.toRat?.getD 0

namespace Files

variable {fs : Files} {path directory name content : String} {node : FileNode}
  {modified : Number} {accepts : String → Bool}

/-! ## Well-formed files -/

/-- One thing stands at a path, and files were modified at ordinary times. -/
structure WellFormed (fs : Files) : Prop where
  paths : (fs.nodes.map (·.1)).Nodup
  times : ∀ path content modified, (path, .file content modified) ∈ fs.nodes →
    ∃ q, modified = .finite q

theorem wellFormed_empty (working : String) : (empty working).WellFormed := ⟨.nil, nofun⟩

theorem WellFormed.set (h : fs.WellFormed) (path : String)
    (timed : ∀ content modified, node = .file content modified → ∃ q, modified = .finite q) :
    (fs.set path node).WellFormed := by
  constructor
  · show (path :: (fs.nodes.filter (·.1 != path)).map (·.1)).Nodup
    rw [List.nodup_cons]
    refine ⟨by simp, ?_⟩
    exact h.paths.sublist (List.filter_sublist.map _)
  · intro p content modified mem
    rcases List.mem_cons.1 mem with here | there
    · exact timed content modified (Prod.mk.inj here).2.symm
    · exact h.times p content modified (List.mem_filter.1 there).1

theorem WellFormed.makeAll (h : fs.WellFormed) (paths : List String) :
    (fs.makeAll paths).WellFormed := by
  rw [Files.makeAll]
  induction paths generalizing fs with
  | nil => exact h
  | cons p paths ih =>
      rw [List.foldl_cons]
      split
      · exact ih h
      · exact ih (h.set p nofun)

/-- Writing a file keeps files well-formed. -/
theorem WellFormed.write (h : fs.WellFormed) (path content : String) (q : Rat) :
    (fs.write path content (.finite q)).WellFormed :=
  (h.makeAll _).set _ fun _ _ same => ⟨q, (FileNode.file.inj same).2.symm⟩

/-- Making directories keeps files well-formed. -/
theorem WellFormed.ensureDirectory (h : fs.WellFormed) {made : Files}
    (done : fs.ensureDirectory path = .ok made) : made.WellFormed := by
  unfold Files.ensureDirectory at done
  dsimp only at done
  split at done
  · exact Except.ok.inj done ▸ h
  · split at done
    · cases done
    · split at done
      · cases done
      · exact Except.ok.inj done ▸ h.makeAll _

/-- A file stands at a path exactly if it was put there. -/
theorem WellFormed.at?_eq_file_iff (h : fs.WellFormed) :
    fs.at? path = some (.file content modified) ↔ (path, .file content modified) ∈ fs.nodes := by
  have found : fs.nodes.lookup path = some (.file content modified) ↔
      (path, .file content modified) ∈ fs.nodes := by
    rw [List.lookup_eq_some_iff]
    constructor
    · rintro ⟨before, after, split, -⟩
      rw [split]
      exact List.mem_append_right _ List.mem_cons_self
    · intro mem
      obtain ⟨before, after, split⟩ := List.append_of_mem mem
      refine ⟨before, after, split, fun p hp => bne_iff_ne.2 fun same => ?_⟩
      have distinct := h.paths
      rw [split, List.map_append, List.map_cons, List.nodup_append] at distinct
      exact distinct.2.2 _ (List.mem_map_of_mem hp) _ List.mem_cons_self same.symm
  rw [← found, at?]
  cases fs.nodes.lookup path with
  | some n => rfl
  | none =>
      dsimp only
      split <;> simp

/-! ## Names inside a directory -/

/-- The name of a path inside a directory is what stands behind the directory's own path. -/
theorem childName?_eq_some_iff : childName? directory path = some name ↔
    path = Path.within directory name ∧ name ≠ "" ∧ '/' ∉ name.toList := by
  rw [childName?, Path.within]
  generalize (if directory = "/" then "/" else directory ++ "/") = lead
  have behind (rest : List Char) (start : path.toList = lead.toList ++ rest) :
      path = lead ++ name ↔ rest = name.toList := by
    rw [← String.toList_inj, start, String.toList_append, List.append_cancel_left_eq]
  cases starts : lead.toList.isPrefixOf path.toList with
  | false =>
      refine iff_of_false (Option.some_ne_none _).symm ?_
      rintro ⟨rfl, -⟩
      have front : lead.toList <+: (lead ++ name).toList := by
        rw [String.toList_append]
        exact List.prefix_append _ _
      rw [List.isPrefixOf_iff_prefix.2 front] at starts
      cases starts
  | true =>
      obtain ⟨rest, start⟩ := List.isPrefixOf_iff_prefix.1 starts
      have dropped : path.toList.drop lead.length = rest := by
        rw [← start, ← String.length_toList, List.drop_left]
      dsimp only
      rw [dropped, behind rest start.symm]
      have text : String.ofList rest = name ↔ rest = name.toList := by
        rw [← String.toList_inj, String.toList_ofList]
      have plain : ¬ (rest.contains '/' || rest.isEmpty) = true ↔ rest ≠ [] ∧ '/' ∉ rest := by
        simp [and_comm]
      have named : name ≠ "" ↔ name.toList ≠ [] := not_congr String.toList_eq_nil_iff.symm
      rw [named]
      split
      · rename_i refused
        refine iff_of_false (Option.some_ne_none _).symm ?_
        rintro ⟨rfl, kept⟩
        exact plain.2 kept refused
      · rename_i kept
        rw [Option.some_inj, text, iff_self_and]
        rintro rfl
        exact plain.1 kept

/-! ## Listings -/

/-- A listing of a directory holds a file under its name: it is found there by the path that is
given, and its name is accepted. -/
structure Holds (fs : Files) (directory : String) (Accepted : String → Prop) (e : FileEntry) :
    Prop where
  there : fs.node? directory = some .directory
  named : Path.Names e.name
  accepted : Accepted e.name
  path : e.path = Path.join directory e.name
  file : ∃ content, fs.node? e.path = some (.file content e.modified)

/-- A listing sorts what it takes from everything that stands somewhere: the files inside the
directory whose names are accepted. -/
theorem exists_newestFirst_eq (accepts : String → Bool)
    (there : fs.node? directory = some .directory) :
    ∃ item? : String × FileNode → Option FileEntry,
      (∀ path node e, item? (path, node) = some e ↔
        (path = Path.within (fs.absolute directory) e.name ∧ e.name ≠ "" ∧ '/' ∉ e.name.toList) ∧
          accepts e.name = true ∧ e.path = Path.join directory e.name ∧
            ∃ content, node = .file content e.modified) ∧
      fs.newestFirst directory accepts =
        .ok ((fs.nodes.filterMap item?).mergeSort fun a b => b.modified.le a.modified) := by
  unfold newestFirst
  rw [there]
  refine ⟨_, fun path node e => ?_, rfl⟩
  dsimp only
  rw [← childName?_eq_some_iff]
  generalize childName? (fs.absolute directory) path = child
  constructor
  · intro listed
    split at listed
    · split at listed
      · rename_i content modified accepted
        obtain rfl := Option.some.inj listed
        exact ⟨rfl, accepted, rfl, content, rfl⟩
      · cases listed
    · cases listed
  · rintro ⟨rfl, accepted, joined, content, rfl⟩
    dsimp only
    rw [if_pos accepted, ← joined]

section Listing

variable {entries : List FileEntry}

/-- Ordinary times of modification are put in descending order. -/
theorem pairwise_mergeSort (times : ∀ e ∈ entries, ∃ q, e.modified = .finite q) :
    (entries.mergeSort fun a b => b.modified.le a.modified).Pairwise
      fun a b => b.modified.le a.modified = true := by
  have agree : ∀ a ∈ entries, ∀ b ∈ entries,
      b.modified.le a.modified = decide (b.time ≤ a.time) := by
    intro a ha b hb
    obtain ⟨p, hp⟩ := times a ha
    obtain ⟨q, hq⟩ := times b hb
    rw [FileEntry.time, FileEntry.time, hp, hq, Number.le_finite]
    rfl
  have same : (entries.mergeSort fun a b => b.modified.le a.modified) =
      entries.mergeSort fun a b => decide (b.time ≤ a.time) := by
    simpa using List.map_mergeSort (f := id) agree
  have sorted : (entries.mergeSort fun a b => decide (b.time ≤ a.time)).Pairwise
      fun a b => decide (b.time ≤ a.time) = true := by
    refine List.pairwise_mergeSort (fun a b c hab hbc => ?_) (fun a b => ?_) entries
    · exact decide_eq_true ((of_decide_eq_true hbc).trans (of_decide_eq_true hab))
    · rw [Bool.or_eq_true, decide_eq_true_iff, decide_eq_true_iff]
      exact le_total _ _
  rw [same]
  refine sorted.imp_of_mem fun ha hb older => ?_
  rw [agree _ (List.mem_mergeSort.1 ha) _ (List.mem_mergeSort.1 hb)]
  exact older

-- names that are accepted are no steps to a directory that is known
variable (dotless : ∀ name, accepts name = true → name ≠ "." ∧ name ≠ "..")

include dotless

/-- What a listing takes from all that stands somewhere are the files that it is to hold. -/
theorem WellFormed.mem_entries_iff (h : fs.WellFormed)
    (there : fs.node? directory = some .directory) {item? : String × FileNode → Option FileEntry}
    (takes : ∀ path node e, item? (path, node) = some e ↔
      (path = Path.within (fs.absolute directory) e.name ∧ e.name ≠ "" ∧ '/' ∉ e.name.toList) ∧
        accepts e.name = true ∧ e.path = Path.join directory e.name ∧
          ∃ content, node = .file content e.modified) (e : FileEntry) :
    e ∈ fs.nodes.filterMap item? ↔ fs.Holds directory (accepts · = true) e := by
  have named : directory ≠ "" := by
    rintro rfl
    cases there
  -- the path that is joined and the path inside the directory lead to the same file
  have found (names : Path.Names e.name) (content : String) :
      fs.node? (Path.join directory e.name) = some (.file content e.modified) ↔
        (Path.within (fs.absolute directory) e.name, FileNode.file content e.modified) ∈
          fs.nodes := by
    rw [← h.at?_eq_file_iff, node?, if_neg (Path.join_ne_empty named names), absolute,
      Path.resolve_join fs.working named names]
    rfl
  rw [List.mem_filterMap]
  constructor
  · rintro ⟨⟨path, node⟩, mem, listed⟩
    obtain ⟨⟨rfl, full, unbroken⟩, accepted, joined, content, rfl⟩ := (takes _ _ _).1 listed
    have dots := dotless _ accepted
    have names : Path.Names e.name := ⟨full, dots.1, dots.2, unbroken⟩
    exact ⟨there, names, accepted, joined, content, joined ▸ (found names content).2 mem⟩
  · rintro ⟨-, names, accepted, joined, content, file⟩
    refine ⟨(_, .file content e.modified), (found names content).1 (joined ▸ file), ?_⟩
    exact (takes _ _ _).2
      ⟨⟨rfl, names.ne_empty, names.unbroken⟩, accepted, joined, content, rfl⟩

/-- A listing has each file that it is to hold once, and none before one that was modified after
it. -/
theorem WellFormed.exists_newestFirst (h : fs.WellFormed)
    (noFile : ∀ content modified, fs.node? directory ≠ some (.file content modified)) :
    ∃ found, fs.newestFirst directory accepts = .ok found ∧
      (∀ e, e ∈ found ↔ fs.Holds directory (accepts · = true) e) ∧ found.Nodup ∧
      found.length ≤ fs.nodes.length ∧
      found.Pairwise fun a b => b.modified.le a.modified = true := by
  cases node : fs.node? directory with
  | none =>
      refine ⟨[], by rw [newestFirst, node], fun e => ?_, .nil, Nat.zero_le _, .nil⟩
      refine iff_of_false List.not_mem_nil fun holds => ?_
      rw [holds.there] at node
      cases node
  | some n =>
      cases n with
      | file content modified => exact absurd node (noFile content modified)
      | directory =>
          obtain ⟨item?, takes, listing⟩ := exists_newestFirst_eq accepts node
          have mem := h.mem_entries_iff dotless node takes
          have once : (fs.nodes.filterMap item?).Nodup := by
            refine List.Pairwise.filterMap item? ?_ (List.pairwise_map.1 h.paths)
            rintro ⟨p, n⟩ ⟨q, m⟩ apart a ha b hb rfl
            exact apart (((takes _ _ _).1 ha).1.1.trans ((takes _ _ _).1 hb).1.1.symm)
          refine ⟨_, listing, fun e => ?_, ?_, ?_, pairwise_mergeSort fun e taken => ?_⟩
          · rw [List.mem_mergeSort, mem]
          · exact (List.mergeSort_perm _ _).nodup_iff.2 once
          · rw [List.length_mergeSort]
            exact List.length_filterMap_le _ _
          · obtain ⟨⟨path, node⟩, stands, takes'⟩ := List.mem_filterMap.1 taken
            obtain ⟨-, -, -, content, rfl⟩ := (takes _ _ _).1 takes'
            exact h.times path content e.modified stands

/-- Where no two of the files were modified at the same time, each was modified after those that are
listed behind it. -/
theorem WellFormed.newestFirst_strictly (h : fs.WellFormed)
    (noFile : ∀ content modified, fs.node? directory ≠ some (.file content modified))
    (apart : ∀ a b, fs.Holds directory (accepts · = true) a →
      fs.Holds directory (accepts · = true) b → a.modified = b.modified → a = b) :
    ∃ found, fs.newestFirst directory accepts = .ok found ∧
      (∀ e, e ∈ found ↔ fs.Holds directory (accepts · = true) e) ∧ found.Nodup ∧
      found.length ≤ fs.nodes.length ∧
      found.Pairwise fun a b => b.modified.lt a.modified = true := by
  obtain ⟨found, listing, mem, once, size, sorted⟩ := h.exists_newestFirst dotless noFile
  refine ⟨found, listing, mem, once, size, ?_⟩
  refine (sorted.and once).imp_of_mem fun ha hb both => ?_
  exact Number.lt_of_le_of_ne both.1 fun same =>
    both.2 (apart _ _ ((mem _).1 ha) ((mem _).1 hb) same.symm)

end Listing

end Files

end VoiceControl
