/-!
# Ordered entries

A table is a list of keys and values in the order in which it is listed. `put` is the plain table:
a new key goes last, a known one keeps its place. `insert` is the order of data files: keys that
are array indices come first and ascend, all others follow in the order they were added.
-/

namespace VoiceControl

/-- Keys with values, in listing order. -/
abbrev Entries (α : Type) := List (String × α)

namespace Entries

variable {α β : Type}

/-- The value under a key. -/
def get? (key : String) : Entries α → Option α
  | [] => none
  | (k, v) :: es => if key = k then some v else get? key es

/-- Whether a key is present. -/
def has (key : String) (es : Entries α) : Bool := (get? key es).isSome

/-- Sets a key: a known one keeps its place, a new one goes last. -/
def put (key : String) (value : α) : Entries α → Entries α
  | [] => [(key, value)]
  | (k, v) :: es => if key = k then (k, value) :: es else (k, v) :: put key value es

/-- Removes a key. -/
def remove (key : String) (es : Entries α) : Entries α := es.filter (·.1 ≠ key)

/-- The array index that a key spells: decimal digits without a leading zero, below `2 ^ 32 - 1`. -/
def arrayIndex? (key : String) : Option Nat :=
  match key.toList with
  | [] => none
  | cs =>
      if cs.all Char.isDigit ∧ (cs.head? ≠ some '0' ∨ cs.length = 1) ∧ cs.length ≤ 10 then
        let n := cs.foldl (fun n c => n * 10 + (c.toNat - 48)) 0
        if n < 4294967295 then some n else none
      else none

/-- Whether `a` is listed before `b` whatever the order they were added in. -/
def comesBefore (a b : String) : Bool :=
  match arrayIndex? a, arrayIndex? b with
  | some m, some n => m < n
  | some _, none => true
  | none, _ => false

/-- Adds a new key at its place in listing order. -/
def place (key : String) (value : α) : Entries α → Entries α
  | [] => [(key, value)]
  | (k, v) :: es =>
      if comesBefore key k then (key, value) :: (k, v) :: es else (k, v) :: place key value es

/-- Sets a key in listing order: a known one keeps its place, a new array index goes among the
indices, any other new key goes last. -/
def insert (key : String) (value : α) (es : Entries α) : Entries α :=
  if has key es then put key value es else place key value es

/-- Pairs added one after the other to the plain table. -/
def ofPairs (ps : List (String × α)) : Entries α :=
  ps.foldl (fun es (k, v) => put k v es) []

/-- Pairs added one after the other in listing order. -/
def listing (ps : List (String × α)) : Entries α :=
  ps.foldl (fun es (k, v) => insert k v es) []

/-- The keys in listing order. -/
def keys (es : Entries α) : List String := es.map (·.1)

@[simp] theorem get?_nil (key : String) : get? key ([] : Entries α) = none := rfl

theorem get?_cons (key k : String) (v : α) (es : Entries α) :
    get? key ((k, v) :: es) = if key = k then some v else get? key es := rfl

/-- A key that was set is found. -/
@[simp] theorem get?_put_self (key : String) (value : α) (es : Entries α) :
    get? key (put key value es) = some value := by
  induction es with
  | nil => simp [put, get?]
  | cons e es ih =>
      obtain ⟨k, v⟩ := e
      by_cases h : key = k <;> simp [put, h, get?, ih]

/-- Setting a key leaves the others alone. -/
theorem get?_put_of_ne {key other : String} (h : other ≠ key) (value : α) (es : Entries α) :
    get? other (put key value es) = get? other es := by
  induction es with
  | nil => simp [put, get?, h]
  | cons e es ih =>
      obtain ⟨k, v⟩ := e
      by_cases hk : key = k
      · subst hk
        simp [put, get?, h]
      · simp [put, hk, get?, ih]

/-- A key that was removed is not found. -/
@[simp] theorem get?_remove_self (key : String) (es : Entries α) :
    get? key (remove key es) = none := by
  induction es with
  | nil => rfl
  | cons e es ih =>
      obtain ⟨k, v⟩ := e
      by_cases h : k = key
      · simpa [remove, h] using ih
      · have other : key ≠ k := fun eq => h eq.symm
        simpa [remove, h, get?, other] using ih

/-- Removing a key leaves the others alone. -/
theorem get?_remove_of_ne {key other : String} (h : other ≠ key) (es : Entries α) :
    get? other (remove key es) = get? other es := by
  induction es with
  | nil => rfl
  | cons e es ih =>
      obtain ⟨k, v⟩ := e
      by_cases hk : k = key
      · have skipped : other ≠ k := fun eq => h (eq.trans hk)
        rw [get?_cons, if_neg skipped, ← ih]
        simp [remove, hk]
      · rw [get?_cons, ← ih]
        simp [remove, hk, get?_cons]

theorem get?_place_self {key : String} {es : Entries α} (h : get? key es = none) (value : α) :
    get? key (place key value es) = some value := by
  induction es with
  | nil => simp [place, get?_cons]
  | cons e es ih =>
      obtain ⟨k, v⟩ := e
      rw [get?_cons] at h
      split at h
      · simp at h
      · rename_i hk
        by_cases hb : comesBefore key k
        · simp [place, hb, get?_cons]
        · simp [place, hb, get?_cons, hk, ih h]

theorem get?_place_of_ne {key other : String} (h : other ≠ key) (value : α) (es : Entries α) :
    get? other (place key value es) = get? other es := by
  induction es with
  | nil => simp [place, get?_cons, h]
  | cons e es ih =>
      obtain ⟨k, v⟩ := e
      by_cases hb : comesBefore key k
      · simp [place, hb, get?_cons, h]
      · simp [place, hb, get?_cons, ih]

/-- A key that was inserted is found. -/
@[simp] theorem get?_insert_self (key : String) (value : α) (es : Entries α) :
    get? key (insert key value es) = some value := by
  unfold insert has
  split
  · simp
  · rename_i h
    exact get?_place_self (by simpa using h) value

/-- Inserting a key leaves the others alone. -/
theorem get?_insert_of_ne {key other : String} (h : other ≠ key) (value : α) (es : Entries α) :
    get? other (insert key value es) = get? other es := by
  unfold insert
  split
  · exact get?_put_of_ne h value es
  · exact get?_place_of_ne h value es

end Entries

end VoiceControl
