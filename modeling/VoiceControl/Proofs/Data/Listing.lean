import VoiceControl.Data.Tree

/-!
# Trees in listing order

Entries are in order when no key occurs twice and array indices come first and ascend. Inserting
keeps this order, so every mapping that is built by insertion has it, and setting the entries of
such a mapping one after the other gives it back. A tree is in order when all its mappings are;
whatever is read from a data file is.

One key is none: what is set under `__proto__` becomes what an object inherits from. A tree is plain
when no mapping has it, and listed when it is in order and plain.
-/

namespace VoiceControl

namespace Entries

variable {α : Type}

/-- No key occurs twice and none is listed after one that it comes before. -/
def InOrder (es : Entries α) : Prop :=
  es.Pairwise fun a b => a.1 ≠ b.1 ∧ comesBefore b.1 a.1 = false

instance (es : Entries α) : Decidable (InOrder es) :=
  inferInstanceAs (Decidable (List.Pairwise _ es))

theorem comesBefore_asymm {a b : String} (h : comesBefore a b = true) :
    comesBefore b a = false := by
  grind [comesBefore]

theorem comesBefore_trans {a b c : String} (h₁ : comesBefore a b = true)
    (h₂ : comesBefore b c = true) : comesBefore a c = true := by
  grind [comesBefore]

@[simp] theorem inOrder_nil : InOrder ([] : Entries α) := List.Pairwise.nil

theorem inOrder_cons {k : String} {v : α} {es : Entries α} :
    InOrder ((k, v) :: es) ↔
      (∀ e ∈ es, k ≠ e.1 ∧ comesBefore e.1 k = false) ∧ InOrder es :=
  List.pairwise_cons

/-- A key is found under one of the entries. -/
theorem mem_of_get? {key : String} {value : α} {es : Entries α}
    (found : get? key es = some value) : (key, value) ∈ es := by
  induction es with
  | nil => simp at found
  | cons e es ih =>
      obtain ⟨k, v⟩ := e
      rw [get?_cons] at found
      split at found
      · rename_i same
        simp_all
      · exact List.mem_cons_of_mem _ (ih found)

theorem get?_eq_none {key : String} {es : Entries α} (absent : ∀ e ∈ es, key ≠ e.1) :
    get? key es = none := by
  cases found : get? key es with
  | none => rfl
  | some value => exact absurd rfl (absent _ (mem_of_get? found))

/-- A key that is not found is the key of no entry. -/
theorem ne_of_get?_eq_none {key : String} {es : Entries α} (absent : get? key es = none) :
    ∀ e ∈ es, key ≠ e.1 := by
  induction es with
  | nil => simp
  | cons e es ih =>
      obtain ⟨k, v⟩ := e
      rw [get?_cons] at absent
      split at absent
      · simp at absent
      · rename_i ne
        simpa using ⟨ne, fun a b => ih absent (a, b)⟩

theorem mem_put {key : String} {value : α} {es : Entries α} {e : String × α}
    (h : e ∈ put key value es) : e = (key, value) ∨ e ∈ es := by
  induction es with
  | nil => simpa [put] using h
  | cons f es ih =>
      obtain ⟨k, v⟩ := f
      simp only [put] at h
      split at h <;> simp only [List.mem_cons] at h ⊢ <;> grind

/-- A table made of pairs has no other entries. -/
theorem mem_of_mem_ofPairs {ps : List (String × α)} {e : String × α} (h : e ∈ ofPairs ps) :
    e ∈ ps := by
  have added : ∀ es : Entries α, e ∈ ps.foldl (fun es f => put f.1 f.2 es) es →
      e ∈ ps ∨ e ∈ es := by
    clear h
    induction ps with
    | nil => exact fun _ h => .inr h
    | cons f ps ih =>
        intro es h
        rcases ih (put f.1 f.2 es) h with later | old
        · exact .inl (List.mem_cons_of_mem f later)
        · rcases mem_put old with rfl | old
          · exact .inl List.mem_cons_self
          · exact .inr old
  exact (added [] h).resolve_right List.not_mem_nil

theorem mem_of_get?_ofPairs {key : String} {value : α} {ps : List (String × α)}
    (found : get? key (ofPairs ps) = some value) : (key, value) ∈ ps :=
  mem_of_mem_ofPairs (mem_of_get? found)

theorem mem_keys_of_get? {key : String} {value : α} {es : Entries α}
    (found : get? key es = some value) : key ∈ es.keys :=
  List.mem_map_of_mem (mem_of_get? found)

theorem mem_place {key : String} {value : α} {es : Entries α} {e : String × α}
    (h : e ∈ place key value es) : e = (key, value) ∨ e ∈ es := by
  induction es with
  | nil => simpa [place] using h
  | cons f es ih =>
      obtain ⟨k, v⟩ := f
      simp only [place] at h
      split at h <;> simp only [List.mem_cons] at h ⊢ <;> grind

/-- Inserting adds nothing but its own entry. -/
theorem mem_insert {key : String} {value : α} {es : Entries α} {e : String × α}
    (h : e ∈ insert key value es) : e = (key, value) ∨ e ∈ es := by
  unfold insert at h
  split at h
  · exact mem_put h
  · exact mem_place h

theorem inOrder_put {key : String} {value : α} {es : Entries α} (inOrder : InOrder es)
    (known : has key es = true) : InOrder (put key value es) := by
  induction es with
  | nil => simp [has] at known
  | cons f es ih =>
      obtain ⟨k, v⟩ := f
      obtain ⟨first, rest⟩ := inOrder_cons.mp inOrder
      simp only [put]
      split
      · exact inOrder_cons.mpr ⟨first, rest⟩
      · rename_i ne
        have below : has key es = true := by simpa [has, get?_cons, ne] using known
        refine inOrder_cons.mpr ⟨fun e he => ?_, ih rest below⟩
        obtain ⟨w, found⟩ := Option.isSome_iff_exists.mp below
        rcases mem_put he with rfl | he
        · exact first (key, w) (mem_of_get? found)
        · exact first e he

theorem inOrder_place {key : String} {value : α} {es : Entries α} (inOrder : InOrder es)
    (new : get? key es = none) : InOrder (place key value es) := by
  induction es with
  | nil => exact List.pairwise_singleton _ _
  | cons f es ih =>
      obtain ⟨k, v⟩ := f
      obtain ⟨first, rest⟩ := inOrder_cons.mp inOrder
      have ne := ne_of_get?_eq_none new
      simp only [place]
      split
      · rename_i before
        refine inOrder_cons.mpr ⟨fun e he => ⟨ne e he, ?_⟩, inOrder⟩
        rcases List.mem_cons.mp he with rfl | he
        · exact comesBefore_asymm before
        · -- an entry before the new key would come before the key it was put in front of
          cases earlier : comesBefore e.1 key with
          | false => rfl
          | true => simpa [(first e he).2] using comesBefore_trans earlier before
      · rename_i after
        have ne_first : key ≠ k := ne _ (List.mem_cons_self ..)
        have new_below : get? key es = none := by simpa [get?_cons, ne_first] using new
        refine inOrder_cons.mpr ⟨fun e he => ?_, ih rest new_below⟩
        rcases mem_place he with rfl | he
        · exact ⟨ne_first.symm, by simpa using after⟩
        · exact first e he

/-- Inserting keeps the order. -/
theorem inOrder_insert {key : String} {value : α} {es : Entries α} (inOrder : InOrder es) :
    InOrder (insert key value es) := by
  unfold insert
  split
  · exact inOrder_put inOrder ‹_›
  · rename_i new
    exact inOrder_place inOrder (by simpa [has] using new)

/-- A key that no entry comes after goes last. -/
theorem insert_eq_append {key : String} {value : α} {es : Entries α}
    (last : ∀ e ∈ es, e.1 ≠ key ∧ comesBefore key e.1 = false) :
    insert key value es = es ++ [(key, value)] := by
  have new : get? key es = none := get?_eq_none fun e he => (last e he).1.symm
  have placed : place key value es = es ++ [(key, value)] := by
    clear new
    induction es with
    | nil => rfl
    | cons f es ih =>
        have ⟨_, after⟩ := last f (List.mem_cons_self ..)
        have := ih fun e he => last e (List.mem_cons_of_mem _ he)
        simp [place, after, this]
  simp [insert, has, new, placed]

end Entries

namespace Tree

/-- All mappings inside the tree are as `P` says. -/
inductive Throughout (P : Entries Tree → Prop) : Tree → Prop
  | null : Throughout P .null
  | bool (b : Bool) : Throughout P (.bool b)
  | number (n : Number) : Throughout P (.number n)
  | text (s : String) : Throughout P (.text s)
  | list {ts : List Tree} (items : ∀ t ∈ ts, Throughout P t) : Throughout P (.list ts)
  | mapping {es : List (String × Tree)} (here : P es) (values : ∀ e ∈ es, Throughout P e.2) :
      Throughout P (.mapping es)

theorem Throughout.here {P : Entries Tree → Prop} {es : Entries Tree}
    (h : Throughout P (.mapping es)) : P es := by
  cases h
  assumption

theorem Throughout.of_get? {P : Entries Tree → Prop} {es : Entries Tree} {k : String} {t : Tree}
    (h : Throughout P (.mapping es)) (found : Entries.get? k es = some t) : Throughout P t := by
  cases h with
  | mapping _ values => exact values _ (Entries.mem_of_get? found)

/-- All mappings inside the tree are in order. -/
abbrev Ordered : Tree → Prop := Throughout Entries.InOrder

/-- No mapping inside the tree has the key that stands for what an object inherits from. -/
abbrev Plain : Tree → Prop := Throughout fun es => "__proto__" ∉ es.keys

/-- A tree as it stands for an object that inherits nothing. -/
structure Listed (t : Tree) : Prop where
  ordered : t.Ordered
  plain : t.Plain

theorem ordered_empty : Ordered (.mapping []) := .mapping Entries.inOrder_nil (by simp)

theorem listed_empty : Listed (.mapping []) := ⟨ordered_empty, .mapping List.not_mem_nil (by simp)⟩

/-- Inserting a value in order keeps a mapping in order. -/
theorem Ordered.insert {es : Entries Tree} {k : String} {t : Tree} (h : Ordered (.mapping es))
    (value : t.Ordered) : Ordered (.mapping (Entries.insert k t es)) := by
  cases h with
  | mapping inOrder values =>
      refine .mapping (Entries.inOrder_insert inOrder) fun e he => ?_
      rcases Entries.mem_insert he with rfl | he
      · exact value
      · exact values e he

/-- A mapping made of values in order by insertion is in order. -/
theorem ordered_ofPairs {ps : List (String × Tree)} (values : ∀ p ∈ ps, p.2.Ordered) :
    (ofPairs ps).Ordered := by
  have inserted : ∀ (es : Entries Tree), Ordered (.mapping es) →
      Ordered (.mapping (ps.foldl (fun es p => Entries.insert p.1 p.2 es) es)) := by
    induction ps with
    | nil => exact fun _ ordered => ordered
    | cons p ps ih =>
        exact fun es ordered => ih (fun q hq => values q (List.mem_cons_of_mem _ hq)) _
          (ordered.insert (values p (List.mem_cons_self ..)))
  exact inserted [] ordered_empty

end Tree

end VoiceControl
