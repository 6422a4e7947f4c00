import VoiceControl.Data.Entries

/-!
# Reserved names

A table of texts answers for a few names beside its own entries: those of the operations that every
table has. An entry of the table's own under such a name wins. Only the plain lookup `answer?` knows
these names; `Entries.get?` and `Entries.has` look at the entries alone.
-/

namespace VoiceControl

namespace Entries

/-- The operations that every table has. -/
def operations : List String :=
  ["__defineGetter__", "__defineSetter__", "hasOwnProperty", "__lookupGetter__", "__lookupSetter__",
    "isPrototypeOf", "propertyIsEnumerable", "toString", "valueOf", "toLocaleString"]

/-- The text of a built-in operation. -/
def operationText (name : String) : String := "function " ++ name ++ "() \x7b [native code] \x7d"

/-- The text that every table gives for a name, when it has one. -/
def reserved? (name : String) : Option String :=
  if name ∈ operations then some (operationText name)
  else if name = "constructor" then some (operationText "Object")
  else if name = "__proto__" then some "[object Object]"
  else none

/-- What a table of texts answers for a name: its own entry, or else what every table does. -/
def answer? (name : String) (es : Entries String) : Option String :=
  (get? name es).orElse fun _ => reserved? name

/-- An entry of the table's own wins. -/
theorem answer?_of_get? {name value : String} {es : Entries String} (h : get? name es = some value) :
    answer? name es = some value := by
  simp [answer?, h]

/-- Without an entry of its own a table answers as every table does. -/
theorem answer?_of_absent {name : String} {es : Entries String} (h : get? name es = none) :
    answer? name es = reserved? name := by
  simp [answer?, h]

end Entries

end VoiceControl
