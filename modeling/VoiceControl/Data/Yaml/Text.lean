import VoiceControl.Data.Yaml.Cursor
import VoiceControl.Number.Reading

/-!
# Written scalars

The three ways a scalar is written in a data file: between quotes, plain, or as a block of lines.
Each reader takes a cursor at the scalar's first character and gives the text it stands for and the
place behind it; a malformed scalar gives nothing.
-/

namespace VoiceControl

namespace Yaml

/-- The characters of one line fold into a space, those of empty lines into line ends: what stands
for `breaks` line ends in a row. -/
def folded (breaks : Nat) : List Char :=
  if breaks ≤ 1 then [' '] else List.replicate (breaks - 1) '\n'

/-- Passes line ends and the blanks around them; counts the line ends. -/
def passBreaks : (count : Nat) → List Char → Nat × List Char
  | n, [] => (n, [])
  | n, c :: r =>
      if c = '\n' then passBreaks (n + 1) r
      else if isSpace c then passBreaks n r
      else (n, c :: r)

/-- The text between single quotes, after the opening one; two quotes stand for one. The text so
far is held in reverse. -/
def singleQuoted (fuel : Nat) (soFar : List Char) (s : List Char) :
    Option (List Char × List Char) :=
  match fuel, s with
  | 0, _ => none
  | _, [] => none
  | fuel + 1, c :: r =>
      if c = '\x27' then
        match r with
        | '\x27' :: r' => singleQuoted fuel ('\x27' :: soFar) r'
        | _ => some (soFar.reverse, r)
      else if c = '\n' then
        let (n, r') := passBreaks 1 r
        singleQuoted fuel ((folded n).reverse ++ soFar.dropWhile isSpace) r'
      else singleQuoted fuel (c :: soFar) r

/-- The characters that a letter stands for after a backslash. -/
def shortEscape? (c : Char) : Option Char :=
  [('0', '\x00'), ('a', '\x07'), ('b', '\x08'), ('t', '\t'), ('\t', '\t'), ('n', '\n'),
    ('v', '\x0B'), ('f', '\x0C'), ('r', '\r'), ('e', '\x1B'), (' ', ' '), ('\x22', '\x22'),
    ('/', '/'), ('\\', '\\'), ('N', '\u0085'), ('_', '\u00A0'), ('L', '\u2028'),
    ('P', '\u2029')].lookup c

/-- The number of hexadecimal digits behind an escape letter. -/
def escapeWidth? (c : Char) : Option Nat :=
  [('x', 2), ('u', 4), ('U', 8)].lookup c

/-- Reads `width` hexadecimal digits. -/
def hexDigits? (width : Nat) (s : List Char) : Option (Nat × List Char) :=
  let ds := s.take width
  if ds.length = width ∧ ds.all (fun c => (Number.digitValue? 16 c).isSome) then
    some (Number.natOfDigits 16 ds, s.drop width)
  else none

/-- Joins the two halves of a surrogate pair into the character they stand for. -/
def joinSurrogates (high low : Nat) : Char :=
  Char.ofNat (0x10000 + (high - 0xD800) * 0x400 + (low - 0xDC00))

/-- The character that a numbered escape stands for, with the second half of a pair if one
follows. -/
def numberedEscape (n : Nat) (s : List Char) : Char × List Char :=
  if 0xD800 ≤ n ∧ n < 0xDC00 then
    match s with
    | '\\' :: 'u' :: r =>
        match hexDigits? 4 r with
        | some (m, r') =>
            if 0xDC00 ≤ m ∧ m < 0xE000 then (joinSurrogates n m, r') else ('\uFFFD', s)
        | none => ('\uFFFD', s)
    | _ => ('\uFFFD', s)
  else if 0xDC00 ≤ n ∧ n < 0xE000 then ('\uFFFD', s)
  else (Char.ofNat n, s)

/-- The text between double quotes, after the opening one. The text so far is held in reverse. -/
def doubleQuoted (fuel : Nat) (soFar : List Char) (s : List Char) :
    Option (List Char × List Char) :=
  match fuel, s with
  | 0, _ => none
  | _, [] => none
  | fuel + 1, c :: r =>
      if c = '\x22' then some (soFar.reverse, r)
      else if c = '\n' then
        let (n, r') := passBreaks 1 r
        doubleQuoted fuel ((folded n).reverse ++ soFar.dropWhile isSpace) r'
      else if c = '\\' then
        match r with
        | [] => none
        | e :: r' =>
            if e = '\n' then doubleQuoted fuel soFar (r'.dropWhile isSpace)
            else
              match shortEscape? e, escapeWidth? e with
              | some x, _ => doubleQuoted fuel (x :: soFar) r'
              | none, some width =>
                  match hexDigits? width r' with
                  | some (n, r'') =>
                      let (x, r''') := numberedEscape n r''
                      doubleQuoted fuel (x :: soFar) r'''
                  | none => none
              | none, none => none
      else doubleQuoted fuel (c :: soFar) r

/-- A quoted scalar at the cursor, with the place behind its closing quote. -/
def quotedScalar (c : Cursor) : Option (List Char × Cursor) :=
  let fuel := c.rest.length + 1
  match c.rest with
  | '\x22' :: r => (doubleQuoted fuel [] r).map fun (t, rest) => (t, c.moveTo rest)
  | '\x27' :: r => (singleQuoted fuel [] r).map fun (t, rest) => (t, c.moveTo rest)
  | _ => none

/-- The part of a plain scalar on this line and what follows it. A plain scalar ends at the end of
the line, at a comment, at a colon that ends a key and, inside a flow collection, at its marks. -/
def plainOnLine (flow : Bool) : (afterSpace : Bool) → List Char → List Char × List Char
  | _, [] => ([], [])
  | afterSpace, c :: r =>
      if c = '\n' ∨ (c = '#' ∧ afterSpace) ∨ (c = ':' ∧ endsKey flow r) ∨ (flow ∧ isFlowMark c) then
        ([], c :: r)
      else
        let (t, rest) := plainOnLine flow (isSpace c) r
        (c :: t, rest)

/-- Drops the blanks at the end of a line. -/
def trimLine (s : List Char) : List Char := (s.reverse.dropWhile isSpace).reverse

/-- Whether a plain scalar may start here. -/
def startsPlain (flow : Bool) : List Char → Bool
  | [] => false
  | c :: r =>
      if c == '-' || c == '?' || c == ':' then
        match r with
        | [] => false
        | d :: _ => !(isSpace d || d == '\n' || (flow && isFlowMark d))
      else
        !(isSpace c || c == '\n' || isFlowMark c ||
          "#&*!|>\x27\x22%@\x60".toList.contains c)

/-- The lines of a plain scalar after its first. A line belongs to the scalar when it is indented
more than `parent`; one that is left at a key's colon makes the scalar malformed outside flow
collections. -/
def plainMore (fuel : Nat) (flow : Bool) (parent : Int) (soFar : List Char) (c : Cursor) :
    Option (List Char × Cursor) :=
  match fuel with
  | 0 => none
  | fuel + 1 =>
      match c.skipSpaces.rest with
      | '\n' :: _ =>
          let (n, rest) := passBreaks 0 c.skipSpaces.rest
          let line := c.moveTo rest
          if rest.isEmpty || (!flow && (line.column : Int) ≤ parent) || line.atDocumentEnd ||
              rest.head? == some '#' then
            some (soFar, c)
          else
            let (t, rest') := plainOnLine flow false rest
            if t.isEmpty then some (soFar, c)
            else if !flow && rest'.head? == some ':' then none
            else
              plainMore fuel flow parent (soFar ++ folded n ++ trimLine t)
                (line.advance (trimLine t).length)
      | _ => some (soFar, c)

/-- How the line ends at the end of a block of lines are kept. -/
inductive Chomping where
  | strip
  | clip
  | keep
  deriving DecidableEq

/-- The header of a block of lines behind its mark: the chomping and the stated indentation. -/
def blockHeader : (fuel : Nat) → Chomping × Option Nat → List Char →
    Option ((Chomping × Option Nat) × List Char)
  | 0, _, _ => none
  | _, h, [] => some (h, [])
  | fuel + 1, (chomping, indent), c :: r =>
      if c = '-' then blockHeader fuel (.strip, indent) r
      else if c = '+' then blockHeader fuel (.keep, indent) r
      else if '1' ≤ c ∧ c ≤ '9' then blockHeader fuel (chomping, some (c.toNat - 48)) r
      else if c = '\n' then some ((chomping, indent), r)
      else if isSpace c then
        match (c :: r).dropWhile isSpace with
        | '#' :: r' => some ((chomping, indent), (r'.dropWhile (· != '\n')).drop 1)
        | '\n' :: r' => some ((chomping, indent), r')
        | [] => some ((chomping, indent), [])
        | _ => none
      else none

/-- The next line and what follows its end. -/
def takeLine (s : List Char) : List Char × List Char :=
  (s.takeWhile (· != '\n'), (s.dropWhile (· != '\n')).drop 1)

/-- The lines of a block: those indented by at least `indent`, without their indentation, and the
empty ones between them. -/
def blockLines : (fuel : Nat) → (indent : Nat) → List Char → List (List Char) × List Char
  | 0, _, s => ([], s)
  | fuel + 1, indent, s =>
      if s.isEmpty then ([], [])
      else
        let (line, rest) := takeLine s
        let depth := (line.takeWhile (· == ' ')).length
        if (line.drop depth).isEmpty && depth ≤ indent then
          let (ls, r) := blockLines fuel indent rest
          ([] :: ls, r)
        else if indent ≤ depth then
          let (ls, r) := blockLines fuel indent rest
          (line.drop indent :: ls, r)
        else ([], s)

/-- The indentation of the first line that is not empty. -/
def firstIndent : (fuel : Nat) → List Char → Nat
  | 0, _ => 0
  | fuel + 1, s =>
      if s.isEmpty then 0
      else
        let (line, rest) := takeLine s
        let depth := (line.takeWhile (· == ' ')).length
        if (line.drop depth).isEmpty then firstIndent fuel rest else depth

/-- The text of lines whose ends are kept. -/
def literalText (ls : List (List Char)) : List Char := ls.flatMap fun l => l ++ ['\n']

/-- The text of lines that fold: a single end between two lines that are not further indented
becomes a space. -/
def foldedText : List (List Char) → List Char
  | [] => []
  | [l] => l ++ ['\n']
  | l :: m :: ls =>
      let more (x : List Char) : Bool := match x with
        | c :: _ => isSpace c
        | [] => false
      if l.isEmpty then '\n' :: foldedText (m :: ls)
      else if more l || more m then l ++ '\n' :: foldedText (m :: ls)
      else if m.isEmpty then l ++ foldedText (m :: ls)
      else l ++ ' ' :: foldedText (m :: ls)

/-- Applies a chomping to the end of a block's text. -/
def chomp (how : Chomping) (body trailing : List Char) : List Char :=
  match how with
  | .strip => (body.reverse.dropWhile (· == '\n')).reverse
  | .clip => if body.isEmpty then [] else (body.reverse.dropWhile (· == '\n')).reverse ++ ['\n']
  | .keep => body ++ trailing

/-- A scalar written as a block of lines, at its mark. -/
def blockScalar (parent : Int) (c : Cursor) : Option (List Char × Cursor) :=
  match c.rest with
  | [] => none
  | mark :: r =>
      let fuel := c.rest.length + 1
      match blockHeader fuel (.clip, none) r with
      | none => none
      | some ((chomping, stated), body) =>
          let base := (parent + 1).toNat
          let indent := match stated with
            | some n => (parent.toNat + n)
            | none => Nat.max (firstIndent fuel body) base
          let (ls, rest) := blockLines fuel indent body
          let shown := (ls.reverse.dropWhile (·.isEmpty)).reverse
          let trailing := List.replicate (ls.length - shown.length) '\n'
          let text := if mark = '|' then literalText shown else foldedText shown
          some (chomp chomping text trailing, ⟨rest, 0⟩)

end Yaml

end VoiceControl
