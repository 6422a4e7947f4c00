import VoiceControl.Config.Layers
import VoiceControl.Proofs.Data.Listing

/-!
# Leaves of merged trees

A leaf of a tree is a value that is no mapping, together with the path of keys that leads to it.
Where a layer fits the tree below it, the leaves of the merge are those of the layer and, at the
paths that it does not define, those of the tree below. The variables of the environment set the
leaves of a layer of their own, but they also turn three sections into mappings: a leaf that the
files have in such a place is lost.
-/

namespace VoiceControl

namespace Tree

/-- Whether a value is a mapping. -/
def isMapping (t : Tree) : Bool := t.mapping?.isSome

@[simp] theorem isMapping_mapping (es : List (String × Tree)) : (mapping es).isMapping = true := rfl

theorem eq_mapping_of_isMapping {t : Tree} (h : t.isMapping = true) : ∃ es, t = .mapping es := by
  cases t with
  | mapping es => exact ⟨es, rfl⟩
  | _ => simp [isMapping, mapping?] at h

/-- What stands at a path of keys. -/
def at? : Tree → List String → Option Tree
  | t, [] => some t
  | .mapping es, k :: ks =>
      match Entries.get? k es with
      | some t => at? t ks
      | none => none
  | _, _ :: _ => none

/-- The leaf at a path of keys: what stands there when it is no mapping. -/
def leaf? (t : Tree) (path : List String) : Option Tree :=
  (t.at? path).filter fun v => !v.isMapping

/-- No path leads to a mapping in the one tree and to a leaf in the other. -/
def AgreesOnShape (s t : Tree) : Prop :=
  ∀ path a b, s.at? path = some a → t.at? path = some b → a.isMapping = b.isMapping

@[simp] theorem at?_nil (t : Tree) : t.at? [] = some t := by
  cases t <;> rfl

theorem at?_cons (es : Entries Tree) (k : String) (ks : List String) :
    (mapping es).at? (k :: ks) = (Entries.get? k es).bind fun t => t.at? ks := by
  rw [at?]
  cases Entries.get? k es <;> rfl

theorem at?_cons_of_leaf {t : Tree} (leaf : t.isMapping = false) (k : String) (ks : List String) :
    t.at? (k :: ks) = none := by
  cases t with
  | mapping es => simp at leaf
  | _ => rfl

/-- A path is followed key by key. -/
theorem at?_append (t : Tree) (p q : List String) :
    t.at? (p ++ q) = (t.at? p).bind fun s => s.at? q := by
  induction p generalizing t with
  | nil => simp
  | cons k ks ih =>
      by_cases shape : t.isMapping
      · obtain ⟨es, rfl⟩ := eq_mapping_of_isMapping shape
        cases found : Entries.get? k es <;> simp [at?_cons, found, ih]
      · have leaf : t.isMapping = false := by simpa using shape
        simp [at?_cons_of_leaf leaf]

@[simp] theorem leaf?_mapping_nil (es : Entries Tree) : (mapping es).leaf? [] = none := by
  simp [leaf?]

theorem leaf?_mapping_cons (es : Entries Tree) (k : String) (ks : List String) :
    (mapping es).leaf? (k :: ks) = (Entries.get? k es).bind fun t => t.leaf? ks := by
  cases found : Entries.get? k es <;> simp [leaf?, at?_cons, found]

theorem leaf?_nil_of_leaf {t : Tree} (leaf : t.isMapping = false) : t.leaf? [] = some t := by
  simp [leaf?, leaf]

theorem leaf?_cons_of_leaf {t : Tree} (leaf : t.isMapping = false) (k : String)
    (ks : List String) : t.leaf? (k :: ks) = none := by
  simp [leaf?, at?_cons_of_leaf leaf]

@[simp] theorem leaf?_empty (path : List String) : (mapping []).leaf? path = none := by
  cases path <;> simp [leaf?_mapping_cons]

theorem leaf?_eq_some {t v : Tree} {path : List String} :
    t.leaf? path = some v ↔ t.at? path = some v ∧ v.isMapping = false := by
  simp [leaf?, Option.filter_eq_some_iff]

end Tree

namespace Config

open VoiceControl.Tree

theorem merge_nil (below : Entries Tree) : merge below [] = below := by
  rw [merge]

theorem merge_cons (below : Entries Tree) (k : String) (t : Tree) (es : Entries Tree) :
    merge below ((k, t) :: es) =
      merge (Entries.insert k (overlayValue (Entries.get? k below) t) below) es := by
  rw [merge]

theorem overlayValue_of_leaf {t : Tree} (leaf : t.isMapping = false) (current : Option Tree) :
    overlayValue current t = t := by
  cases t with
  | mapping es => simp at leaf
  | _ => rw [overlayValue]; simp

theorem overlayValue_none (t : Tree) : overlayValue none t = t := by
  cases t <;> simp [overlayValue]

theorem overlayValue_over_mapping (cs es : Entries Tree) :
    overlayValue (some (.mapping cs)) (.mapping es) = .mapping (merge cs es) := by
  rw [overlayValue]

theorem overlayValue_over_leaf {c : Tree} (leaf : c.isMapping = false) (t : Tree) :
    overlayValue (some c) t = t := by
  cases t with
  | mapping es =>
      cases c with
      | mapping cs => simp at leaf
      | _ => simp [overlayValue]
  | _ => simp [overlayValue]

/-- What is found in a merge depends only on what is found below it. -/
theorem get?_merge_congr {a b : Entries Tree} {key : String}
    (same : Entries.get? key a = Entries.get? key b) (layer : Entries Tree) :
    Entries.get? key (merge a layer) = Entries.get? key (merge b layer) := by
  induction layer generalizing a b with
  | nil => simpa [merge_nil] using same
  | cons e es ih =>
      obtain ⟨k, t⟩ := e
      rw [merge_cons, merge_cons]
      apply ih
      by_cases here : key = k
      · subst here
        rw [Entries.get?_insert_self, Entries.get?_insert_self, same]
      · rw [Entries.get?_insert_of_ne here, Entries.get?_insert_of_ne here, same]

/-- Each key of a layer is set once over what is below it. -/
theorem get?_merge {layer : Entries Tree} (inOrder : layer.InOrder) (below : Entries Tree)
    (key : String) :
    Entries.get? key (merge below layer) =
      match Entries.get? key layer with
      | some t => some (overlayValue (Entries.get? key below) t)
      | none => Entries.get? key below := by
  induction layer generalizing below with
  | nil => rw [merge_nil]; rfl
  | cons e es ih =>
      obtain ⟨k, t⟩ := e
      obtain ⟨first, rest⟩ := Entries.inOrder_cons.mp inOrder
      rw [merge_cons, ih rest, Entries.get?_cons]
      by_cases here : key = k
      · subst here
        have last : Entries.get? key es = none := Entries.get?_eq_none fun e he => (first e he).1
        simp [last]
      · simp [here, Entries.get?_insert_of_ne here]

/-- Entries in order that come after all of those below are added to them as they are. -/
theorem merge_eq_append {below layer : Entries Tree} (inOrder : Entries.InOrder (below ++ layer)) :
    merge below layer = below ++ layer := by
  induction layer generalizing below with
  | nil => simp [merge_nil]
  | cons e es ih =>
      obtain ⟨k, t⟩ := e
      have before : ∀ f ∈ below, f.1 ≠ k ∧ Entries.comesBefore k f.1 = false := fun f hf =>
        (List.pairwise_append.mp inOrder).2.2 f hf _ (List.mem_cons_self ..)
      have new : Entries.get? k below = none :=
        Entries.get?_eq_none fun f hf => (before f hf).1.symm
      have appended : below ++ (k, t) :: es = (below ++ [(k, t)]) ++ es := by simp
      rw [merge_cons, new, overlayValue_none, Entries.insert_eq_append before, appended]
      exact ih (by rwa [appended] at inOrder)

/-- Entries in order make up themselves. -/
theorem merge_empty {layer : Entries Tree} (inOrder : layer.InOrder) : merge [] layer = layer :=
  merge_eq_append inOrder

/-- A layer fits the tree below it when no leaf of the tree is inside a leaf of the layer or where
the layer has a mapping. -/
structure Fits (below layer : Entries Tree) : Prop where
  leaf : ∀ {p q v w}, leaf? (.mapping layer) p = some v →
    leaf? (.mapping below) (p ++ q) = some w → q = []
  mapping : ∀ {p es}, at? (.mapping layer) p = some (.mapping es) →
    leaf? (.mapping below) p = none

/-- A layer that agrees on shape fits. -/
theorem Fits.of_agreesOnShape {below layer : Entries Tree}
    (agrees : AgreesOnShape (.mapping below) (.mapping layer)) : Fits below layer where
  leaf := by
    intro p q v w defined inside
    rw [leaf?_eq_some] at defined inside
    cases q with
    | nil => rfl
    | cons k ks =>
        obtain ⟨found, _⟩ := inside
        rw [at?_append, Option.bind_eq_some_iff] at found
        obtain ⟨t, here, below⟩ := found
        have leaf : t.isMapping = false := by rw [agrees p t v here defined.1, defined.2]
        simp [at?_cons_of_leaf leaf] at below
  mapping := by
    intro p es defined
    cases found : leaf? (.mapping below) p with
    | none => rfl
    | some t =>
        rw [leaf?_eq_some] at found
        have := agrees p t _ found.1 defined
        simp [found.2] at this

/-- Nothing is defined by an empty layer. -/
theorem Fits.empty_layer (below : Entries Tree) : Fits below [] where
  leaf := by simp
  mapping := by
    intro p es defined
    cases p with
    | nil => simp
    | cons k ks => simp [at?_cons] at defined

/-- Every layer fits over nothing. -/
theorem Fits.empty_below (layer : Entries Tree) : Fits [] layer where
  leaf := by simp
  mapping := by simp

/-- Whether a layer fits depends on the leaves of the tree below it. -/
theorem Fits.of_leaves {a b c layer : Entries Tree} (hb : Fits b layer) (hc : Fits c layer)
    (leaves : ∀ {p v}, leaf? (.mapping a) p = some v →
      leaf? (.mapping b) p = some v ∨ leaf? (.mapping c) p = some v) : Fits a layer where
  leaf := by
    intro p q v w defined inside
    rcases leaves inside with inside | inside
    · exact hb.leaf defined inside
    · exact hc.leaf defined inside
  mapping := by
    intro p es defined
    cases found : leaf? (.mapping a) p with
    | none => rfl
    | some t =>
        rcases leaves found with found | found
        · simp [hb.mapping defined] at found
        · simp [hc.mapping defined] at found

/-- What fits a tree fits part by part. -/
theorem Fits.at_key {below layer cs es : Entries Tree} {k : String} (fits : Fits below layer)
    (inBelow : Entries.get? k below = some (.mapping cs))
    (inLayer : Entries.get? k layer = some (.mapping es)) : Fits cs es where
  leaf := by
    intro p q v w defined inside
    refine fits.leaf (p := k :: p) (v := v) (w := w) ?_ ?_
    · simpa [leaf?_mapping_cons, inLayer] using defined
    · simpa [leaf?_mapping_cons, inBelow] using inside
  mapping := by
    intro p fs defined
    have := fits.mapping (p := k :: p) (by rw [at?_cons, inLayer]; exact defined)
    simpa [leaf?_mapping_cons, inBelow] using this

/-- The leaves of a merge: those of the layer, and those below where the layer defines none. -/
theorem leaf?_merge {below layer : Entries Tree} (ordered : Ordered (.mapping layer))
    (fits : Fits below layer) (path : List String) :
    leaf? (.mapping (merge below layer)) path =
      (leaf? (.mapping layer) path).or (leaf? (.mapping below) path) := by
  induction path generalizing below layer with
  | nil => simp
  | cons k ks ih =>
      rw [leaf?_mapping_cons, get?_merge ordered.here, leaf?_mapping_cons layer]
      cases inLayer : Entries.get? k layer with
      | none => simp [leaf?_mapping_cons]
      | some t =>
          by_cases shape : t.isMapping
          · obtain ⟨es, rfl⟩ := eq_mapping_of_isMapping shape
            have inside := ordered.of_get? inLayer
            cases inBelow : Entries.get? k below with
            | none => simp [overlayValue_none, leaf?_mapping_cons, inBelow]
            | some c =>
                by_cases shapeBelow : c.isMapping
                · obtain ⟨cs, rfl⟩ := eq_mapping_of_isMapping shapeBelow
                  have := ih inside (fits.at_key inBelow inLayer)
                  simpa [overlayValue_over_mapping, leaf?_mapping_cons, inBelow] using this
                · -- the layer has a mapping where there is a leaf below
                  have leaf : c.isMapping = false := by simpa using shapeBelow
                  have := fits.mapping (p := [k]) (by rw [at?_cons, inLayer]; exact at?_nil _)
                  simp [leaf?_mapping_cons, inBelow, leaf?_nil_of_leaf leaf] at this
          · have leaf : t.isMapping = false := by simpa using shape
            simp only [overlayValue_of_leaf leaf]
            have here : leaf? (.mapping layer) [k] = some t := by
              simp [leaf?_mapping_cons, inLayer, leaf?_nil_of_leaf leaf]
            cases ks with
            | nil => simp [leaf?_nil_of_leaf leaf]
            | cons l ls =>
                have nothing : leaf? (.mapping below) (k :: l :: ls) = none := by
                  cases found : leaf? (.mapping below) (k :: l :: ls) with
                  | none => rfl
                  | some w => exact absurd (fits.leaf here (q := l :: ls) found) (by simp)
                simp [leaf?_cons_of_leaf leaf, nothing]

end Config

end VoiceControl
