import VoiceControl.Data.Entries
import VoiceControl.Number.Digits
import VoiceControl.Text.Quoted
import VoiceControl.Text.Units

/-!
# Data trees

The values that configuration files, overrides and event details are made of, with the indented
form in which settings, help listings and reports are printed.
-/

namespace VoiceControl

/-- A data value; the entries of a mapping are in listing order. -/
inductive Tree where
  | null
  | bool (value : Bool)
  | number (value : Number)
  | text (value : String)
  | list (items : List Tree)
  | mapping (entries : List (String × Tree))
  deriving Inhabited

namespace Tree

/-- A mapping from pairs in listing order. -/
def ofPairs (ps : List (String × Tree)) : Tree := .mapping (Entries.listing ps)

/-- A list of texts. -/
def texts (ts : List String) : Tree := .list (ts.map .text)

/-- A natural number. -/
def nat (n : Nat) : Tree := .number n

/-- A value that may be missing. -/
def orNull {α : Type} (f : α → Tree) : Option α → Tree
  | some a => f a
  | none => .null

/-- The entries of a mapping. -/
def mapping? : Tree → Option (Entries Tree)
  | .mapping es => some es
  | _ => none

/-- The text that a value is. -/
def text? : Tree → Option String
  | .text s => some s
  | _ => none

/-- The number that a value is. -/
def number? : Tree → Option Number
  | .number n => some n
  | _ => none

/-- The elements of a list; anything else has none. -/
def items : Tree → List Tree
  | .list ts => ts
  | _ => []

/-- The texts among the elements of a list. -/
def textItems (t : Tree) : List String := t.items.filterMap text?

/-- The entries of a mapping; anything else has none. -/
def entries : Tree → Entries Tree
  | .mapping es => es
  | _ => []

/-- The value under a key of a mapping. -/
def field? (t : Tree) (key : String) : Option Tree := Entries.get? key t.entries

/-- What a value is called in a report on a wrong type. -/
def kindName : Tree → String
  | .null => "null"
  | .bool _ => "boolean"
  | .number .nan => "nan"
  | .number _ => "number"
  | .text _ => "string"
  | .list _ => "array"
  | .mapping _ => "object"

/-- The entries that a value lists of itself: those of a mapping, the elements of a list and the
characters of a text under their indices, and none for anything else. -/
def listed : Tree → Entries Tree
  | .mapping es => es
  | .list items => items.zipIdx.map fun (t, i) => (toString i, t)
  | .text s => s.toList.zipIdx.map fun (c, i) => (toString i, .text (String.singleton c))
  | _ => []

mutual

/-- Structural equality, numbers by value. -/
def same : Tree → Tree → Bool
  | .null, .null => true
  | .bool a, .bool b => a == b
  | .number a, .number b => decide (a = b)
  | .text a, .text b => a == b
  | .list as, .list bs => sameItems as bs
  | .mapping as, .mapping bs => sameEntries as bs
  | _, _ => false

/-- Equality of lists, element by element. -/
def sameItems : List Tree → List Tree → Bool
  | [], [] => true
  | a :: as, b :: bs => same a b && sameItems as bs
  | _, _ => false

/-- Equality of entries, in order. -/
def sameEntries : List (String × Tree) → List (String × Tree) → Bool
  | [], [] => true
  | (k, a) :: as, (l, b) :: bs => k == l && same a b && sameEntries as bs
  | _, _ => false

end

mutual

/-- The text of a value standing alone: texts and numbers as they are, the elements of a list
between commas with missing ones as nothing, and one fixed text for every mapping. -/
def plainText : Tree → String
  | .null => "null"
  | .bool b => if b then "true" else "false"
  | .number n => n.text
  | .text s => s
  | .list ts => ",".intercalate (plainTexts ts)
  | .mapping _ => "[object Object]"

/-- The texts of the elements of a list. -/
def plainTexts : List Tree → List String
  | [] => []
  | .null :: ts => "" :: plainTexts ts
  | t :: ts => plainText t :: plainTexts ts

end

mutual

/-- Whether a value has a text. A mapping that has an entry of its own in the place of the operation
by which it gives its text has none, and neither has a list with such an element. -/
def hasText : Tree → Bool
  | .list ts => haveTexts ts
  | .mapping es => !Entries.has "toString" es
  | _ => true

/-- Whether all elements of a list have a text. -/
def haveTexts : List Tree → Bool
  | [] => true
  | t :: ts => hasText t && haveTexts ts

end

/-- The text of a value used as the key of an entry; a missing value is the empty key. -/
def keyText : Tree → String
  | .null => ""
  | t => t.plainText

/-- The printed form of a number in data: what is not finite is missing. -/
def numberText (n : Number) : String := if n.isFinite then n.text else "null"

/-- `n` levels of indentation, two spaces each. -/
def indentation (n : Nat) : String := String.ofList (List.replicate (2 * n) ' ')

mutual

/-- The printed form at an indentation depth, one element or entry a line. -/
def prettyAt (depth : Nat) : Tree → String
  | .null => "null"
  | .bool b => if b then "true" else "false"
  | .number n => numberText n
  | .text s => Text.quoted s
  | .list [] => "[]"
  | .list (t :: ts) =>
      "[\n" ++ indentation (depth + 1) ++ prettyAt (depth + 1) t ++ prettyItems (depth + 1) ts ++
        "\n" ++ indentation depth ++ "]"
  | .mapping [] => "\x7b\x7d"
  | .mapping ((k, t) :: es) =>
      "\x7b\n" ++ indentation (depth + 1) ++ Text.quoted k ++ ": " ++ prettyAt (depth + 1) t ++
        prettyEntries (depth + 1) es ++ "\n" ++ indentation depth ++ "\x7d"

/-- The elements after the first. -/
def prettyItems (depth : Nat) : List Tree → String
  | [] => ""
  | t :: ts => ",\n" ++ indentation depth ++ prettyAt depth t ++ prettyItems depth ts

/-- The entries after the first. -/
def prettyEntries (depth : Nat) : List (String × Tree) → String
  | [] => ""
  | (k, t) :: es =>
      ",\n" ++ indentation depth ++ Text.quoted k ++ ": " ++ prettyAt depth t ++
        prettyEntries depth es

end

/-- The printed form of a data value. -/
def pretty (t : Tree) : String := prettyAt 0 t

end Tree

end VoiceControl
