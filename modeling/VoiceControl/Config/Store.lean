import VoiceControl.Data.Tree

/-!
# Looking up configuration

Reading single values of a configuration tree by path. A missing key, a missing value and a step
into anything but a mapping all give the default, as does a value of the wrong type.
-/

namespace VoiceControl

namespace Config

/-- The value at a path; a missing value on the way or at the end is none. -/
def lookup? : Tree → List String → Option Tree
  | t, [] => some t
  | .mapping es, k :: ks =>
      match Entries.get? k es with
      | none | some .null => none
      | some t => lookup? t ks
  | _, _ :: _ => none

/-- The text at a path. -/
def text? (t : Tree) (path : List String) : Option String :=
  match lookup? t path with
  | some (.text s) => some s
  | _ => none

/-- The number at a path; a special number counts as missing. -/
def number? (t : Tree) (path : List String) : Option Number :=
  match lookup? t path with
  | some (.number n) => if n.isFinite then some n else none
  | _ => none

/-- The truth value at a path. -/
def bool? (t : Tree) (path : List String) : Option Bool :=
  match lookup? t path with
  | some (.bool b) => some b
  | _ => none

/-- The mapping at a path, empty when there is none. -/
def entriesAt (t : Tree) (path : List String) : Entries Tree :=
  match lookup? t path with
  | some (.mapping es) => es
  | _ => []

@[simp] theorem lookup?_nil (t : Tree) : lookup? t [] = some t := by
  cases t <;> rfl

end Config

end VoiceControl
