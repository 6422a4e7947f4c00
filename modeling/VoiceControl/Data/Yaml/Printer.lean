import VoiceControl.Data.Tree
import VoiceControl.Data.Yaml.Fold
import VoiceControl.Data.Yaml.Scalar

/-!
# Printing data files

A data value as a data file: mappings and lists in blocks, two spaces deeper a level, empty ones as
a pair of brackets. A text is written bare where that reads back as the same text, in a block of its
own when it has several lines, and between quotes otherwise; long ones are folded.
-/

namespace VoiceControl

namespace Yaml

open VoiceControl.Text

namespace Print

/-- Where a scalar stands. -/
inductive Place where
  /-- In front of a colon, where it must stay on one line. -/
  | key
  /-- At an indentation; behind a key, its first line starts at a column of its own. -/
  | value (indent : Nat) (column : Option Nat)

/-- Puts a text behind every run of line breaks. -/
def behindBreaks (mark : List Char) : List Char → List Char
  | [] => []
  | c :: r =>
      if c = '\n' ∧ r.head? ≠ some '\n' then c :: mark ++ behindBreaks mark r
      else c :: behindBreaks mark r

/-- Puts a text behind every run of line breaks but one at the end. -/
def betweenBreaks (mark : List Char) : List Char → List Char
  | [] => []
  | c :: r =>
      if c = '\n' ∧ r.head? ≠ some '\n' ∧ r ≠ [] then c :: mark ++ betweenBreaks mark r
      else c :: betweenBreaks mark r

/-- Makes every run of line breaks one longer. -/
def widenBreaks : (afterBreak : Bool) → List Char → List Char
  | _, [] => []
  | afterBreak, c :: r =>
      if c = '\n' ∧ !afterBreak then c :: c :: widenBreaks true r
      else c :: widenBreaks (c = '\n') r

/-- Whether a character is a space, a tab or a line break. -/
def loose (c : Char) : Bool := c == ' ' || c == '\t' || c == '\n'

/-- Whether a text begins with a space or a tab. -/
def startsIndented (s : List Char) : Bool := Fold.gap s.head?

/-- Whether a character ends a line. -/
def endsLine (c : Char) : Bool :=
  c == '\n' || c == '\r' || c == '\u2028' || c == '\u2029'

/-- Takes back the widening of breaks around lines that begin with a blank, since such lines are
never joined with their neighbours. -/
def narrowIndented (atStart : Bool) : List Char → List Char
  | [] => []
  | c :: r =>
      let lead : Option (List Char) :=
        if c = '\n' ∧ startsIndented r then some []
        else if atStart ∧ Fold.gap (some c) then some [c]
        else none
      match lead with
      | none => c :: narrowIndented false r
      | some lead =>
          let body := lead ++ r.takeWhile fun c => !endsLine c
          let rest := r.dropWhile fun c => !endsLine c
          let run := rest.takeWhile loose
          if run.getLast? = some '\n' then
            body ++ run.dropLast ++ narrowIndented false (rest.dropWhile loose)
          else body ++ narrowIndented false rest
  termination_by s => s.length
  decreasing_by
    · simp
    · have h₁ := (List.dropWhile_sublist (l := r) fun c => !endsLine c).length_le
      have h₂ := (List.dropWhile_sublist (l := r.dropWhile fun c => !endsLine c) loose).length_le
      simp only [List.length_cons]
      omega
    · have h₁ := (List.dropWhile_sublist (l := r) fun c => !endsLine c).length_le
      simp only [List.length_cons]
      omega

/-! ## Texts -/

/-- The characters that a bare scalar must not begin with. -/
def indicators : List Char :=
  ['\n', '\t', ' ', ',', '[', ']', '\x7b', '\x7d', '#', '&', '*', '!', '|', '>', '\x27', '\x22', '%',
    '@', '\x60']

/-- Whether two neighbouring characters would end a bare scalar or be lost in it. -/
def clash (a b : Char) : Bool :=
  ((a == '\n' || a == ':') && Fold.gap (some b)) || (Fold.gap (some a) && b == '\n') ||
    (loose a && b == '#')

/-- Whether a text written bare would be read as something else than one text. -/
def needsQuotes (s : List Char) : Bool :=
  let starts := match s with
    | [] => false
    | [c] => indicators.contains c || c == '?' || c == '-'
    | c :: d :: _ => indicators.contains c || ((c == '?' || c == '-') && Fold.gap (some d))
  let ends := s.getLast?.any fun c => loose c || c == ':' || c == '-'
  starts || ends || (s.zip s.tail).any fun (a, b) => clash a b

/-- Whether a character can be written only as an escape or as it is between double quotes. -/
def isControl (c : Char) : Bool :=
  let n := c.toNat
  n < 9 || (10 < n && n < 0x20) || (0x7E < n && n < 0xA0)

/-- The escape of a character that data files write in four hexadecimal digits, shortened. -/
def shortEscape : List Char → List Char
  | ['0', '0', '0', '0'] => ['\\', '0']
  | ['0', '0', '0', '7'] => ['\\', 'a']
  | ['0', '0', '0', 'b'] => ['\\', 'v']
  | ['0', '0', '1', 'b'] => ['\\', 'e']
  | digits => '\\' :: 'x' :: digits.drop 2

/-- Recasts quoted text for a data file: escapes are shortened, and when `spread` holds an
indentation, line breaks become empty lines. Of the text, `skip` characters are already written. -/
def requote (spread : Option Nat) (skip : Nat) : List Char → List Char
  | [] => []
  | c :: r =>
      match skip with
      | n + 1 => requote spread n r
      | 0 =>
          match c, r with
          | ' ', '\\' :: 'n' :: _ => '\\' :: ' ' :: requote spread 0 r
          | '\\', 'u' :: r' => shortEscape (r'.take 4) ++ requote spread 5 r
          | '\\', 'n' :: r' =>
              match spread with
              | some indent =>
                  if r'.head? = some '\x22' then '\\' :: 'n' :: requote spread 1 r
                  else
                    let more := further r'
                    let space := if (r'.drop (2 * more)).head? = some ' ' then ['\\'] else []
                    '\n' :: '\n' :: List.replicate more '\n' ++ List.replicate indent ' ' ++ space ++
                      requote spread (1 + 2 * more) r
              | none => '\\' :: 'n' :: requote spread 1 r
          | '\\', d :: _ => '\\' :: d :: requote spread 1 r
          | _, _ => c :: requote spread 0 r
where
  /-- The number of line breaks that follow at once, but for one at the end of the text. -/
  further : List Char → Nat
    | '\\' :: 'n' :: r => if r.head? = some '\x22' then 0 else further r + 1
    | _ => 0

/-- The length from which a quoted text is spread over several lines. -/
def spreadFrom : Nat := 40

/-- A text between double quotes. -/
def doubleQuoted (place : Place) (s : List Char) : List Char :=
  let q := (quoted (String.ofList s)).toList
  match place with
  | .key => requote none 0 q
  | .value indent column =>
      let spread := if unitCount q < spreadFrom then none else some indent
      (Fold.apply .quoted indent column (requote spread 0 q)).1

/-- A text between single quotes, for one that has no single quote and no line break. -/
def singleQuoted (place : Place) (s : List Char) : List Char :=
  let q := '\x27' :: s ++ ['\x27']
  match place with
  | .key => q
  | .value indent column => (Fold.apply .flow indent column q).1

/-- A text between quotes, of the kind that it does not contain itself if possible. -/
def quotes (place : Place) (s : List Char) : List Char :=
  if s.contains '\x22' ∧ !s.contains '\x27' ∧ !s.contains '\n' then singleQuoted place s
  else doubleQuoted place s

/-- Whether a line of a text is longer than `limit`. -/
def hasLongLine (limit : Nat) (s : List Char) : Bool :=
  (s.splitOnP (· == '\n')).any fun line => unitCount line > limit

/-- Whether a text ends in a line of blanks alone. -/
def endsInBlanks (s : List Char) : Bool :=
  let r := s.reverse
  Fold.gap r.head? && (r.dropWhile fun c => Fold.gap (some c)).head? == some '\n'

/-- A text of several lines as a block. Its header says whether it begins with blanks and what
becomes of the line breaks at its end. -/
def block (indent : Nat) (s : List Char) : List Char :=
  let margin := List.replicate indent ' '
  let core := (s.reverse.dropWhile loose).reverse
  let tail := s.drop core.length
  let chomp : List Char :=
    if !tail.contains '\n' then ['-']
    else if core.isEmpty ∨ tail.dropLast.contains '\n' then ['+']
    else []
  let tail := betweenBreaks margin (if tail.getLast? = some '\n' then tail.dropLast else tail)
  let blanks := core.takeWhile fun c => c == ' ' || c == '\n'
  let start := (blanks.reverse.dropWhile (· != '\n')).reverse
  let rest := core.drop start.length
  let start := behindBreaks margin start
  let header := (if blanks.contains ' ' then ['2'] else []) ++ chomp ++ '\n' :: margin
  let literal := '|' :: header ++ start ++ behindBreaks margin rest ++ tail
  if hasLongLine (Fold.lineWidth - indent) s then
    let folded := behindBreaks margin (narrowIndented true (widenBreaks false rest))
    match Fold.apply .block indent (some indent) (start ++ folded ++ tail) with
    | (body, false) => '>' :: header ++ body
    | (_, true) => literal
  else literal

/-- A text at its place. -/
def text (place : Place) (s : List Char) : List Char :=
  if s.any isControl then doubleQuoted place s
  else
    match place with
    | .key =>
        if s.contains '\n' || needsQuotes s || !isText s then quotes .key s else s
    | .value indent column =>
        if s.contains '\n' then
          if endsInBlanks s then quotes place s else block indent s
        else if needsQuotes s || !isText s then quotes place s
        else (Fold.apply .flow indent column s).1

/-- The text of a number. -/
def number : Number → List Char
  | .nan => ['.', 'n', 'a', 'n']
  | .infinite negative => if negative then ['-', '.', 'i', 'n', 'f'] else ['.', 'i', 'n', 'f']
  | n => n.text.toList

/-! ## Trees -/

/-- The longest key that is written in front of its colon on the same line. -/
def longestKey : Nat := 1024

/-- A line break with an indentation. -/
def newline (indent : Nat) : List Char := Fold.lineBreak indent

/-- Whether a value takes up lines of its own below its key. -/
def isNested : Tree → Bool
  | .list (_ :: _) | .mapping (_ :: _) => true
  | _ => false

/-- One entry of a mapping: `written` gives its value for the column that it starts at. -/
def entry (indent : Nat) (k : String) (nested : Bool) (written : Option Nat → List Char) :
    List Char :=
  let key := text .key k.toList
  if unitCount key > longestKey then
    '?' :: ' ' :: key ++ newline indent ++ ':' :: ' ' :: written none
  else
    key ++ ':' :: (if nested then newline (indent + 2) else [' ']) ++
      written (some (unitCount key + 2))

mutual

/-- A value at an indentation; behind a key, its first line starts at a column of its own. -/
def value (indent : Nat) (column : Option Nat) : Tree → List Char
  | .null => ['n', 'u', 'l', 'l']
  | .bool b => if b then ['t', 'r', 'u', 'e'] else ['f', 'a', 'l', 's', 'e']
  | .number n => number n
  | .text s => text (.value indent column) s.toList
  | .list [] => ['[', ']']
  | .list (t :: ts) => '-' :: ' ' :: value (indent + 2) none t ++ items indent ts
  | .mapping [] => ['\x7b', '\x7d']
  | .mapping ((k, t) :: es) =>
      entry indent k (isNested t) (fun column => value (indent + 2) column t) ++ entries indent es

/-- The elements of a list after the first. -/
def items (indent : Nat) : List Tree → List Char
  | [] => []
  | t :: ts => newline indent ++ '-' :: ' ' :: value (indent + 2) none t ++ items indent ts

/-- The entries of a mapping after the first. -/
def entries (indent : Nat) : List (String × Tree) → List Char
  | [] => []
  | (k, t) :: es =>
      newline indent ++ entry indent k (isNested t) (fun column => value (indent + 2) column t) ++
        entries indent es

end

end Print

/-- A data value as the text of a data file. -/
def print (t : Tree) : String := String.ofList (Print.value 0 none t ++ ['\n'])

end Yaml

end VoiceControl
