import VoiceControl.Text.Units

/-!
# Folding long lines

A scalar that does not fit on its line is broken: at a space between two words, or, inside double
quotes, anywhere behind a backslash. Lengths are counted in sixteen-bit units, so a text is first
cut into cells of one unit each. `Fold.apply` gives the broken text and says whether a line without
a place to break ran over.
-/

namespace VoiceControl

namespace Yaml

open VoiceControl.Text

/-- How a scalar is written, as far as breaking it goes. -/
inductive FoldStyle where
  /-- Bare or between single quotes. -/
  | flow
  /-- Between double quotes. -/
  | quoted
  /-- In a block of its own, where more indented lines are left alone. -/
  | block
  deriving Repr, DecidableEq

/-- One unit of a text; a wide character has two, and shows in its first. -/
structure Cell where
  char : Char
  leads : Bool
  deriving Repr, DecidableEq

namespace Fold

/-- The width that lines should keep to. -/
def lineWidth : Nat := 80

/-- The width that is left to a line however deep it is indented. -/
def minimum : Nat := 20

/-- The cells of a text. -/
def cells (s : List Char) : List Cell :=
  s.flatMap fun c =>
    ⟨c, true⟩ :: List.replicate ((unitsOf c).length - 1) ⟨c, false⟩

/-- The text that cells show. -/
def shown (cs : List Cell) : List Char := (cs.filter (·.leads)).map (·.char)

/-- What is being folded and for which place. -/
structure Task where
  style : FoldStyle
  indent : Nat
  text : Array Cell

namespace Task

/-- The character at a position. -/
def char? (t : Task) (i : Nat) : Option Char := (t.text[i]?).map (·.char)

/-- How far a line reaches beyond the place where it was broken. -/
def reach (t : Task) : Nat := max (1 + minimum) (1 + lineWidth - t.indent)

end Task

/-- Whether a character is there and is no blank. -/
def solid : Option Char → Bool
  | some c => c != ' ' && c != '\n' && c != '\t'
  | none => false

/-- Whether a character is a space or a tab. -/
def gap : Option Char → Bool
  | some c => c == ' ' || c == '\t'
  | none => false

/-- The number of characters that follow the backslash of an escape. -/
def escapeTail : Option Char → Nat
  | some 'x' => 3
  | some 'u' => 5
  | some 'U' => 9
  | _ => 1

/-- The position of the next line break at or behind `i`, or the end of the text. -/
def lineEnd (t : Task) : Nat → Nat → Nat
  | 0, i => i
  | n + 1, i =>
      match t.char? i with
      | none | some '\n' => i
      | some _ => lineEnd t n (i + 1)

/-- Whether the line that starts at a position is indented further than the block. -/
def moreIndented (t : Task) (start : Nat) : Bool :=
  (List.range (t.indent + 1)).all fun k => gap (t.char? (start + k))

/-- The start of the first line, from the one at `start` on, that is not indented further than the
block. -/
def skipIndented (t : Task) : Nat → Nat → Nat
  | 0, start => start
  | n + 1, start =>
      if moreIndented t start then
        skipIndented t n (lineEnd t t.text.size (start + t.indent + 1) + 1)
      else start

/-- What is known while a text is walked through. -/
structure State where
  /-- The position from which a line is too long. -/
  limit : Int
  /-- The last place where the line can be broken. -/
  split : Option Nat := none
  before : Option Char := none
  /-- Where lines are broken, last first. -/
  breaks : List Nat := []
  /-- The breaks that need a backslash, last first. -/
  hard : List Nat := []
  /-- The last escape that was passed: its first and its last position. -/
  escape : Option (Nat × Nat) := none
  overflow : Bool := false

/-- Walks on over blanks that may stand behind the end of a line: gives the character before, the
character reached and its position. -/
def stretch (t : Task) : Nat → (before here : Option Char) → Nat → Option Char × Option Char × Nat
  | 0, before, here, i => (before, here, i)
  | n + 1, before, here, i =>
      if gap before then stretch t n here (t.char? (i + 1)) (i + 1) else (before, here, i)

/-- Where a quoted line is broken that has no space to break at: so that the backslash fits, and
not inside an escape. -/
def hardBreak (s : State) (i : Nat) : Nat :=
  match s.escape with
  | some (first, last) => if i > last + 1 then i - 2 else first - 1
  | none => i - 2

/-- Walks through a text from position `i`. Without a result the text is not folded at all. -/
def walk (t : Task) : Nat → Nat → State → Option State
  | 0, _, s => some s
  | n + 1, i, s =>
      match t.char? i with
      | none => some s
      | some '\n' =>
          let start := if t.style = .block then skipIndented t t.text.size (i + 1) else i + 1
          walk t n start
            { s with
              limit := (start : Int) - 1 + t.indent + t.reach, split := none, before := some '\n' }
      | some c =>
          let escaped := t.style = .quoted ∧ c = '\\'
          -- an escape is walked over as one
          let last := if escaped then i + escapeTail (t.char? (i + 1)) else i
          let s := if escaped then { s with escape := some (i, last) } else s
          let s := if c = ' ' ∧ solid s.before ∧ solid (t.char? (last + 1)) then
            { s with split := some last } else s
          if (last : Int) < s.limit then walk t n (last + 1) { s with before := some c }
          else
            match s.split with
            | some p =>
                walk t n (last + 1)
                  { s with
                    breaks := p :: s.breaks, limit := p + t.reach, split := none, before := some c }
            | none =>
                if t.style = .quoted then
                  let (_, here, stop) := stretch t t.text.size s.before (some c) last
                  let p := hardBreak s stop
                  -- an indentation too deep for any progress leaves the text as it is
                  if p ∈ s.hard then none
                  else
                    walk t n (stop + 1)
                      { s with
                        breaks := p :: s.breaks, hard := p :: s.hard, limit := p + t.reach
                        before := here, overflow := s.overflow || stop != last }
                else walk t n (last + 1) { s with before := some c, overflow := true }

/-- A line break with the indentation behind it. -/
def lineBreak (indent : Nat) : List Char := '\n' :: List.replicate indent ' '

/-- The text from position `i` up to `stop`. -/
def slice (t : Task) (i stop : Nat) : List Char := shown (t.text.toList.take stop |>.drop i)

/-- The text behind the breaks, each of which takes the place of a space or follows a backslash. -/
def behind (t : Task) (hard : List Nat) : List Nat → List Char
  | [] => []
  | p :: rest =>
      let stop := rest.headD t.text.size
      let mark := if p ∈ hard then slice t p (p + 1) ++ ['\\'] else []
      mark ++ lineBreak t.indent ++ slice t (p + 1) stop ++ behind t hard rest

/-- The text with its breaks; a break in front of all text takes no character away. -/
def broken (t : Task) (hard : List Nat) : List Nat → List Char
  | [] => slice t 0 t.text.size
  | 0 :: rest =>
      lineBreak t.indent ++ slice t 0 (rest.headD t.text.size) ++ behind t hard rest
  | p :: rest => slice t 0 p ++ behind t hard (p :: rest)

/-- Folds a text that is written at an indentation; `column` is where its first line starts, if
that is not at the indentation. The second component says whether a line ran over. -/
def apply (style : FoldStyle) (indent : Nat) (column : Option Nat) (s : List Char) :
    List Char × Bool :=
  let t : Task := ⟨style, indent, (cells s).toArray⟩
  if t.text.size ≤ t.reach then (s, false)
  else
    let atOnce := column.any (· > lineWidth - minimum)
    let limit : Int :=
      match column with
      | some k => if atOnce then (lineWidth : Int) - indent else (lineWidth : Int) - k
      | none => (lineWidth : Int) - indent
    let breaks := if atOnce then [0] else []
    let start := if style = .block then skipIndented t t.text.size 0 else 0
    let limit : Int := if start = 0 then limit else (start : Int) - 1 + t.reach
    match walk t t.text.size start { limit, breaks } with
    | none => (s, false)
    | some r => (broken t r.hard r.breaks.reverse, r.overflow)

end Fold

end Yaml

end VoiceControl
