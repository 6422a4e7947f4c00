import VoiceControl.Data.Tree
import VoiceControl.Number.Reading

/-!
# Scalars of data files

What an unquoted scalar stands for, by the core schema of YAML 1.2: missing values, booleans,
integers in three bases, decimals and the special numbers; everything else is text. The printer asks `isText` and quotes
a text that would be read as anything else.
-/

namespace VoiceControl

namespace Yaml

open VoiceControl.Text

/-- The spellings of a missing value. -/
def nullSpellings : List String := ["", "~", "null", "Null", "NULL"]

/-- The spellings of truth. -/
def trueSpellings : List String := ["true", "True", "TRUE"]

/-- The spellings of falsehood. -/
def falseSpellings : List String := ["false", "False", "FALSE"]

/-- The number that an unquoted scalar stands for, when it stands for one. -/
def number? (s : List Char) : Option Number :=
  match s with
  | '0' :: 'o' :: r => Number.basedInteger? 8 r
  | '0' :: 'x' :: r => Number.basedInteger? 16 r
  | _ =>
      if String.ofList s ∈ [".nan", ".NaN", ".NAN"] then some .nan
      else
        let (negative, r) := Number.signPart s
        let magnitude :=
          if String.ofList r ∈ [".inf", ".Inf", ".INF"] then some (.infinite false)
          else Number.unsignedDecimal? r
        magnitude.map fun m => if negative then -m else m

/-- What an unquoted scalar stands for. -/
def resolve (s : List Char) : Tree :=
  let t := String.ofList s
  if t ∈ nullSpellings then .null
  else if t ∈ trueSpellings then .bool true
  else if t ∈ falseSpellings then .bool false
  else
    match number? s with
    | some n => .number n
    | none => .text t

/-- Whether an unquoted scalar is read as text. -/
def isText (s : List Char) : Bool :=
  match resolve s with
  | .text _ => true
  | _ => false

end Yaml

end VoiceControl
