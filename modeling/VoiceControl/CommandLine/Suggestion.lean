import VoiceControl.Text.Units

/-!
# Suggestions

For a word that is not known, the known words that it may be a misspelling of. Words are near when
few edits lead from one to the other, where an edit adds, drops or replaces one unit or swaps two
neighbours; no unit is edited twice.
-/

namespace VoiceControl

namespace Suggestion

open VoiceControl.Text

/-- The number of edits between the first `i` units of one text and the first `j` of another, from
the table of the shorter ones. -/
def entry (rows : Array (Array Nat)) (i j : Nat) : Nat := (rows[i]?.bind (·[j]?)).getD 0

/-- The next number in row `i + 1` of the table, whose first `j + 1` numbers are `row`. -/
def nextEntry (a b : Array Nat) (rows : Array (Array Nat)) (i : Nat) (row : Array Nat) (j : Nat) :
    Nat :=
  let cost := if a[i]? = b[j]? then 0 else 1
  let best := min (min (entry rows i (j + 1) + 1) (row[j]?.getD 0 + 1)) (entry rows i j + cost)
  if 0 < i ∧ 0 < j ∧ a[i]? = b[j - 1]? ∧ a[i - 1]? = b[j]? then
    min best (entry rows (i - 1) (j - 1) + 1)
  else best

/-- Row `i + 1` of the table. -/
def nextRow (a b : Array Nat) (rows : Array (Array Nat)) (i : Nat) : Array Nat :=
  (List.range b.size).foldl (fun row j => row.push (nextEntry a b rows i row j)) #[i + 1]

/-- The least number of edits that lead from one text to the other. -/
def distance (s t : List Char) : Nat :=
  let a := (units s).toArray
  let b := (units t).toArray
  let rows := (List.range a.size).foldl (fun rows i => rows.push (nextRow a b rows i))
    #[Array.range (b.size + 1)]
  entry rows a.size b.size

/-- The most edits that a suggestion is away. -/
def farthest : Nat := 3

/-- Whether two texts have more than two fifths in common at a distance. -/
def alike (s t : List Char) (d : Nat) : Bool :=
  let length := max (unitCount s) (unitCount t)
  5 * (length - d) > 2 * length

/-- Shows a known word to the nearest words so far, which are all at the distance `best`. -/
def consider (word : List Char) (best : Nat) (nearest : List String) (known : String) :
    Nat × List String :=
  let d := distance word known.toList
  if unitCount known.toList ≤ 1 ∨ !alike word known.toList d ∨ best < d then (best, nearest)
  else if d < best then (d, [known])
  else (best, nearest ++ [known])

/-- The known words nearest to a word, in alphabetical order. When the word is an option, the
dashes in front of all words do not count. -/
def near (word : String) (known : List String) : List String :=
  let lead := if word.toList.take 2 = ['-', '-'] then 2 else 0
  let bare (s : String) : String := String.ofList (s.toList.drop lead)
  let found := (known.eraseDups.map bare).foldl
    (fun (best, nearest) k => consider (bare word).toList best nearest k) (farthest, [])
  (found.2.mergeSort (· ≤ ·)).map fun k => String.ofList (word.toList.take lead) ++ k

/-- The remark with which suggestions are made. -/
def remark : List String → String
  | [] => ""
  | [word] => "\n(Did you mean " ++ word ++ "?)"
  | words => "\n(Did you mean one of " ++ ", ".intercalate words ++ "?)"

end Suggestion

end VoiceControl
