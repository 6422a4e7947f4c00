import VoiceControl.Data.Yaml.Reader
import VoiceControl.Proofs.Data.Listing

/-!
# What is read from a data file is in order

The reader makes its mappings by insertion, so all mappings inside the value of a data file are in
order, whatever the file holds. Each part of the reader keeps this for the values that it has read
so far; the two groups of functions that call one another are taken together, a fuel at a time.
-/

namespace VoiceControl

namespace Yaml

open VoiceControl.Tree (Ordered)

theorem ordered_resolve (s : List Char) : (resolve s).Ordered := by
  simp only [resolve]
  cases number? s <;> split <;> (try split) <;> (try split) <;> constructor

theorem ordered_flowScalar {c c' : Cursor} {t : Tree} {quoted : Bool}
    (h : flowScalar c = some ((t, quoted), c')) : t.Ordered := by
  unfold flowScalar at h
  split at h
  · simp at h
  · split at h
    · simp only [Option.map_eq_some_iff] at h
      obtain ⟨_, _, h⟩ := h
      cases h
      exact .text _
    · split at h
      · simp only [Option.map_eq_some_iff] at h
        obtain ⟨_, _, h⟩ := h
        cases h
        exact ordered_resolve _
      · simp at h

theorem ordered_addPair {key value : Tree} {ps qs : Pairs} (hv : value.Ordered)
    (hp : ∀ p ∈ ps, p.2.Ordered) (h : addPair key value ps = some qs) : ∀ p ∈ qs, p.2.Ordered := by
  unfold addPair at h
  split at h
  · simp at h
  · obtain rfl := Option.some.inj h
    simpa using ⟨hv, fun a b => hp (a, b)⟩

theorem ordered_mappingOf {ps : Pairs} (hp : ∀ p ∈ ps, p.2.Ordered) : (mappingOf ps).Ordered := by
  apply Tree.ordered_ofPairs
  simp only [List.mem_map, List.mem_reverse]
  rintro p ⟨q, hq, rfl⟩
  exact hp q hq

theorem ordered_reverse {items : List Tree} (hi : ∀ t ∈ items, t.Ordered) :
    (Tree.list items.reverse).Ordered :=
  .list (by simpa using hi)

/-- What the functions for flow collections give at a fuel is in order. -/
structure FlowOrdered (fuel : Nat) : Prop where
  value : ∀ {c t c'}, flowValue fuel c = some (t, c') → t.Ordered
  items : ∀ {read c t c'}, (∀ t ∈ read, t.Ordered) → flowItems fuel read c = some (t, c') → t.Ordered
  entryValue : ∀ {c t c'}, flowEntryValue fuel c = some (t, c') → t.Ordered
  entries : ∀ {read c t c'}, (∀ p ∈ read, p.2.Ordered) → flowEntries fuel read c = some (t, c') →
    t.Ordered

namespace FlowOrdered

variable {fuel : Nat} {c c' : Cursor} {t : Tree}

theorem value_succ (below : FlowOrdered fuel) (h : flowValue (fuel + 1) c = some (t, c')) :
    t.Ordered := by
  unfold flowValue at h
  split at h
  · exact below.items (by simp) h
  · exact below.entries (by simp) h
  · simp only [Option.map_eq_some_iff] at h
    obtain ⟨_, scalar, h⟩ := h
    cases h
    exact ordered_flowScalar scalar

theorem items_succ (below : FlowOrdered fuel) {read : List Tree} (ordered : ∀ t ∈ read, t.Ordered)
    (h : flowItems (fuel + 1) read c = some (t, c')) : t.Ordered := by
  simp only [flowItems] at h
  split at h
  · simp at h
  · cases h
    exact ordered_reverse ordered
  · split at h
    · simp at h
    · rename_i item _ first
      split at h
      · simp at h
      · rename_i entry _ whole
        have here : entry.Ordered := by
          split at whole
          · cases whole
            exact below.value first
          · split at whole
            · simp at whole
            · rename_i paired
              cases whole
              exact ordered_mappingOf (by simpa using below.entryValue paired)
        have more : ∀ t ∈ entry :: read, t.Ordered := by simpa using ⟨here, ordered⟩
        split at h
        · exact below.items more h
        · cases h
          exact ordered_reverse more
        · simp at h

theorem entryValue_succ (below : FlowOrdered fuel)
    (h : flowEntryValue (fuel + 1) c = some (t, c')) : t.Ordered := by
  unfold flowEntryValue at h
  split at h
  · simp at h
  · split at h
    · cases h
      exact .null
    · exact below.value h

theorem entries_succ (below : FlowOrdered fuel) {read : Pairs} (ordered : ∀ p ∈ read, p.2.Ordered)
    (h : flowEntries (fuel + 1) read c = some (t, c')) : t.Ordered := by
  simp only [flowEntries] at h
  split at h
  · simp at h
  · cases h
    exact ordered_mappingOf ordered
  · split at h
    · simp at h
    · split at h
      · simp at h
      · rename_i entry _ behind
        have here : entry.Ordered := by
          split at behind
          · cases behind
            exact .null
          · exact below.entryValue behind
        split at h
        · simp at h
        · rename_i added
          have more := ordered_addPair here ordered added
          split at h
          · exact below.entries more h
          · cases h
            exact ordered_mappingOf more
          · simp at h

end FlowOrdered

theorem flowOrdered (fuel : Nat) : FlowOrdered fuel := by
  induction fuel with
  | zero => constructor <;> simp [flowValue, flowItems, flowEntryValue, flowEntries]
  | succ fuel ih => exact ⟨ih.value_succ, ih.items_succ, ih.entryValue_succ, ih.entries_succ⟩

theorem ordered_blockLeaf {parent : Int} {c c' : Cursor} {t : Tree}
    (h : blockLeaf parent c = some (t, c')) : t.Ordered := by
  simp only [blockLeaf] at h
  split at h
  · simp at h
  · split at h
    · simp at h
    · rename_i leaf c1 read
      simp only [Option.map_eq_some_iff] at h
      obtain ⟨_, _, h⟩ := h
      cases h
      split at read
      · simp only [Option.map_eq_some_iff] at read
        obtain ⟨_, _, read⟩ := read
        cases read
        exact .text _
      · split at read
        · exact (flowOrdered _).value read
        · split at read
          · simp only [Option.map_eq_some_iff] at read
            obtain ⟨_, _, read⟩ := read
            cases read
            exact .text _
          · split at read
            · simp only [Option.map_eq_some_iff] at read
              obtain ⟨_, _, read⟩ := read
              cases read
              exact ordered_resolve _
            · simp at read

/-- What the functions for block collections give at a fuel is in order. -/
structure BlockOrdered (fuel : Nat) : Prop where
  value : ∀ {parent behindKey c t c'}, blockValue fuel parent behindKey c = some (t, c') →
    t.Ordered
  items : ∀ {column read c t c'}, (∀ t ∈ read, t.Ordered) →
    blockItems fuel column read c = some (t, c') → t.Ordered
  entries : ∀ {column read key c t c'}, (∀ p ∈ read, p.2.Ordered) →
    blockEntries fuel column read key c = some (t, c') → t.Ordered

namespace BlockOrdered

variable {fuel column : Nat} {c c' : Cursor} {t : Tree}

theorem value_succ (below : BlockOrdered fuel) {parent : Int} {behindKey : Bool}
    (h : blockValue (fuel + 1) parent behindKey c = some (t, c')) : t.Ordered := by
  simp only [blockValue] at h
  split at h
  · split at h
    · simp at h
    · exact below.items (by simp) h
  · split at h
    · split at h
      · simp at h
      · exact below.entries (by simp) h
    · exact ordered_blockLeaf h

theorem items_succ (below : BlockOrdered fuel) {read : List Tree} (ordered : ∀ t ∈ read, t.Ordered)
    (h : blockItems (fuel + 1) column read c = some (t, c')) : t.Ordered := by
  simp only [blockItems] at h
  split at h
  · simp at h
  · split at h
    · simp at h
    · rename_i item _ one
      have here : item.Ordered := by
        split at one
        · cases one
          exact .null
        · exact below.value one
      have more : ∀ t ∈ item :: read, t.Ordered := by simpa using ⟨here, ordered⟩
      split at h
      · cases h
        exact ordered_reverse more
      · split at h
        · simp at h
        · split at h
          · exact below.items more h
          · cases h
            exact ordered_reverse more

theorem entries_succ (below : BlockOrdered fuel) {read : Pairs} {key : Tree}
    (ordered : ∀ p ∈ read, p.2.Ordered)
    (h : blockEntries (fuel + 1) column read key c = some (t, c')) : t.Ordered := by
  simp only [blockEntries] at h
  split at h
  · simp at h
  · split at h
    · simp at h
    · rename_i entry _ behind
      have here : entry.Ordered := by
        split at behind
        · cases behind
          exact .null
        · split at behind
          · exact below.value behind
          · split at behind
            · exact below.value behind
            · split at behind
              · exact below.items (by simp) behind
              · cases behind
                exact .null
      split at h
      · simp at h
      · rename_i added
        have more := ordered_addPair here ordered added
        split at h
        · cases h
          exact ordered_mappingOf more
        · split at h
          · simp at h
          · split at h
            · exact below.entries more h
            · simp at h

end BlockOrdered

theorem blockOrdered (fuel : Nat) : BlockOrdered fuel := by
  induction fuel with
  | zero => constructor <;> simp [blockValue, blockItems, blockEntries]
  | succ fuel ih => exact ⟨ih.value_succ, ih.items_succ, ih.entries_succ⟩

/-- The value of a data file is in order. -/
theorem ordered_parse {source : String} {t : Tree} (h : parse source = some t) : t.Ordered := by
  simp only [parse] at h
  split at h
  · simp at h
  · split at h
    · simp at h
    · split at h
      · cases h
        exact .null
      · split at h
        · split at h
          · cases h
            exact .null
          · simp at h
        · split at h
          · simp at h
          · rename_i read
            have := (blockOrdered _).value read
            split at h
            · cases h
              exact this
            · split at h
              · cases h
                exact this
              · simp at h

end Yaml
end VoiceControl
