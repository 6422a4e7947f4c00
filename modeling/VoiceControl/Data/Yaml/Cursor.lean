import VoiceControl.Text.Blank

/-!
# Places in a data file

A cursor is what is left of a data file together with the column of its first character. Moving
over blanks, comments and line ends is all that the reader needs to know about layout.
-/

namespace VoiceControl

namespace Yaml

/-- The rest of a data file and the column it starts at. -/
structure Cursor where
  rest : List Char
  column : Nat
  deriving Repr

/-- A blank inside a line. -/
def isSpace (c : Char) : Bool := c == ' ' || c == '\t'

/-- Whether nothing but a blank, a line end or the end of the file comes next. -/
def atBreak : List Char → Bool
  | [] => true
  | c :: _ => isSpace c || c == '\n'

/-- The characters that structure flow collections. -/
def isFlowMark (c : Char) : Bool :=
  c == ',' || c == '[' || c == ']' || c == '\x7b' || c == '\x7d'

/-- Whether a colon in front of this text ends a key. -/
def endsKey (flow : Bool) : List Char → Bool
  | [] => true
  | c :: _ => isSpace c || c == '\n' || (flow && isFlowMark c)

/-- Whether the text starts with a document marker made of `c`. -/
def atMarker (c : Char) : List Char → Bool
  | a :: b :: d :: r => a == c && b == c && d == c && atBreak r
  | _ => false

namespace Cursor

/-- Moves over `n` characters of one line. -/
def advance (c : Cursor) (n : Nat) : Cursor := ⟨c.rest.drop n, c.column + n⟩

/-- Moves to a later place in the same text. -/
def moveTo (c : Cursor) (rest : List Char) : Cursor :=
  let passed := c.rest.take (c.rest.length - rest.length)
  let lastLine := (passed.reverse.takeWhile (· != '\n')).length
  ⟨rest, if passed.contains '\n' then lastLine else c.column + passed.length⟩

/-- Moves over the blanks of the line. -/
def skipSpaces (c : Cursor) : Cursor := c.moveTo (c.rest.dropWhile isSpace)

/-- Whether the cursor stands at a document marker at the start of a line. -/
def atDocumentEnd (c : Cursor) : Bool :=
  c.column == 0 && (atMarker '-' c.rest || atMarker '.' c.rest)

/-- What is passed on the way to the next token. -/
structure Gap where
  /-- A blank or a line end was passed, so a comment may start here. -/
  parted : Bool
  /-- A line end was passed. -/
  broken : Bool
  /-- The last line passed is indented with a tab. -/
  tabbed : Bool

/-- Moves over blanks, comments and line ends to the next token; says what lay between. -/
def skipFrom : (column : Nat) → (gap : Gap) → List Char → Cursor × Gap
  | column, gap, [] => (⟨[], column⟩, gap)
  | column, gap, c :: r =>
      if c = '\n' then skipFrom 0 ⟨true, true, false⟩ r
      else if isSpace c then
        skipFrom (column + 1) ⟨true, gap.broken, gap.tabbed || (gap.broken && c == '\t')⟩ r
      else if c = '#' ∧ gap.parted then skipComment column gap r
      else (⟨c :: r, column⟩, gap)
where
  /-- Moves over the rest of a comment. -/
  skipComment : (column : Nat) → (gap : Gap) → List Char → Cursor × Gap
    | column, gap, [] => (⟨[], column⟩, gap)
    | column, gap, c :: r =>
        if c = '\n' then skipFrom 0 ⟨true, true, false⟩ r else skipComment (column + 1) gap r

/-- The next token and what lay before it. -/
def next (c : Cursor) : Cursor × Gap :=
  skipFrom c.column ⟨c.column == 0, c.column == 0, false⟩ c.rest

/-- The next token of a block collection; tabs must not indent it. -/
def nextBlock (c : Cursor) : Option (Cursor × Gap) :=
  let (t, gap) := c.next
  if gap.tabbed && !t.rest.isEmpty then none else some (t, gap)

/-- The next token after a finished value, which must stand on a line of its own. -/
def nextLine (c : Cursor) : Option Cursor :=
  match c.nextBlock with
  | some (t, gap) => if gap.broken || t.rest.isEmpty then some t else none
  | none => none

end Cursor

end Yaml

end VoiceControl
