import VoiceControl.Number.Reading
import VoiceControl.Text.Pattern

/-!
# Reading patterns

The written form of patterns: alternatives, groups, repetitions, classes and escapes. Characters
that could not mean anything else stand for themselves, so only a pattern with unbalanced brackets,
a repetition of nothing, a range in the wrong order or a bad group name cannot be read.
-/

namespace VoiceControl

namespace Text

/-- Why a pattern cannot be read. -/
inductive PatternFault where
  | groupOpen
  | bracketUnmatched
  | classOpen
  | nothingToRepeat
  | countsReversed
  | rangeReversed
  | escapeOpen
  | groupInvalid
  | nameInvalid
  | nameTwice
  | nameUnknown
  deriving Repr, DecidableEq

namespace PatternFault

/-- What is wrong with a pattern, in words. -/
def reason : PatternFault → String
  | .groupOpen => "Unterminated group"
  | .bracketUnmatched => "Unmatched ')'"
  | .classOpen => "Unterminated character class"
  | .nothingToRepeat => "Nothing to repeat"
  | .countsReversed => "numbers out of order in \x7b\x7d quantifier"
  | .rangeReversed => "Range out of order in character class"
  | .escapeOpen => "\\ at end of pattern"
  | .groupInvalid => "Invalid group"
  | .nameInvalid => "Invalid capture group name"
  | .nameTwice => "Duplicate capture group name"
  | .nameUnknown => "Invalid named capture referenced"

/-- The message about a pattern that cannot be read. -/
def message (source : String) (f : PatternFault) : String :=
  "Invalid regular expression: /" ++ source ++ "/i: " ++ f.reason

end PatternFault

namespace Pattern

/-- What has been read: the rest of the source and the number of groups so far. -/
structure Place where
  rest : List Char
  groups : Nat := 0

/-- A step in reading a pattern. -/
abbrev Reader := StateT Place (Except PatternFault)

/-- The names of the groups of a pattern, by the order of their opening brackets. -/
abbrev GroupNames := List (Option String)

namespace Reader

/-- The rest of the source. -/
def rest : Reader (List Char) := return (← get).rest

/-- Goes on with another rest. -/
def goOn (r : List Char) : Reader Unit := modify fun p => { p with rest := r }

end Reader

/-- The groups in a source, found without reading it: brackets outside classes and escapes. -/
def groupNames (inClass : Bool) : List Char → GroupNames
  | [] => []
  | '\\' :: _ :: r => groupNames inClass r
  | '[' :: r => groupNames true r
  | ']' :: r => groupNames false r
  | '(' :: r =>
      if inClass then groupNames true r
      else
        match r with
        | '?' :: '<' :: c :: more =>
            if c = '=' ∨ c = '!' then groupNames false r
            else some (String.ofList ((c :: more).takeWhile (· != '>'))) :: groupNames false r
        | '?' :: _ => groupNames false r
        | _ => none :: groupNames false r
  | _ :: r => groupNames inClass r

/-- A pattern of one character. -/
def single (c : Char) : Pattern := .one [.range c c] false

/-- The character that so many hexadecimal digits stand for, with what follows them. -/
def hexadecimal? (count : Nat) (r : List Char) : Option (Char × List Char) :=
  let ds := r.take count
  if ds.length = count ∧ ds.all fun c => (Number.digitValue? 16 c).isSome then
    some (Char.ofNat (Number.natOfDigits 16 ds), r.drop count)
  else none

/-- The character that an escape stands for, and what follows it. -/
def escapedChar (c : Char) (r : List Char) : Char × List Char :=
  match c with
  | 'n' => ('\n', r)
  | 'r' => ('\r', r)
  | 't' => ('\t', r)
  | 'v' => ('\x0b', r)
  | 'f' => ('\x0c', r)
  | 'x' => (hexadecimal? 2 r).getD ('x', r)
  | 'u' => (hexadecimal? 4 r).getD ('u', r)
  | 'c' =>
      match r with
      | d :: more =>
          if d.isAlpha then (Char.ofNat (d.toNat % 32), more) else ('\\', 'c' :: r)
      | [] => ('\\', ['c'])
  | c =>
      if '0' ≤ c ∧ c ≤ '7' then
        let digits := (c :: r).takeWhile fun d => '0' ≤ d && d ≤ '7'
        let digits := digits.take (if c ≤ '3' then 3 else 2)
        (Char.ofNat (Number.natOfDigits 8 digits), (c :: r).drop digits.length)
      else (c, r)

/-- The set that an escape stands for, if it is one. -/
def escapedSet? : Char → Option CharSet
  | 'd' => some .digit
  | 'D' => some (.other .digit)
  | 's' => some .blank
  | 'S' => some (.other .blank)
  | 'w' => some .wordChar
  | 'W' => some (.other .wordChar)
  | _ => none

/-- One member of a class: a set, or a character that may begin a range. -/
def member : Reader (CharSet ⊕ Char) := do
  match ← Reader.rest with
  | [] => throw .classOpen
  | ['\\'] => throw .escapeOpen
  | '\\' :: c :: r =>
      match escapedSet? c with
      | some s =>
          Reader.goOn r
          return .inl s
      | none =>
          if c = 'b' then
            Reader.goOn r
            return .inr '\x08'
          else
            let (d, r) := escapedChar c r
            Reader.goOn r
            return .inr d
  | c :: r =>
      Reader.goOn r
      return .inr c

/-- A member by itself. -/
def alone : CharSet ⊕ Char → CharSet
  | .inl s => s
  | .inr c => .range c c

/-- The members of a class up to its closing bracket. -/
def members : Nat → Reader (List CharSet)
  | 0 => throw .classOpen
  | n + 1 => do
      match ← Reader.rest with
      | ']' :: r =>
          Reader.goOn r
          return []
      | _ =>
          let first ← member
          match ← Reader.rest with
          | '-' :: ']' :: r =>
              Reader.goOn r
              return [alone first, .range '-' '-']
          | '-' :: r =>
              Reader.goOn r
              let last ← member
              match first, last with
              | .inr a, .inr b =>
                  if b < a then throw .rangeReversed
                  return .range a b :: (← members n)
              | _, _ => return alone first :: .range '-' '-' :: alone last :: (← members n)
          | _ => return alone first :: (← members n)

/-- The decimal number at the start of a text. -/
def count? (r : List Char) : Option (Nat × List Char) :=
  match r.span Char.isDigit with
  | ([], _) => none
  | (ds, rest) => some (Number.natOfDigits 10 ds, rest)

/-- The bounds of a repetition at the start of a text. -/
def bounds? : List Char → Option (Nat × Option Nat × List Char)
  | '*' :: r => some (0, none, r)
  | '+' :: r => some (1, none, r)
  | '?' :: r => some (0, some 1, r)
  | '\x7b' :: r =>
      match count? r with
      | some (n, '\x7d' :: r) => some (n, some n, r)
      | some (n, ',' :: '\x7d' :: r) => some (n, none, r)
      | some (n, ',' :: r) =>
          match count? r with
          | some (m, '\x7d' :: r) => some (n, some m, r)
          | _ => none
      | _ => none
  | _ => none

/-- A piece with the repetition that follows it, if one does; `before` is the number of groups in
front of the piece. -/
def repeated (before : Nat) (piece : Pattern) : Reader Pattern := do
  match bounds? (← Reader.rest) with
  | none => return piece
  | some (least, most, r) =>
      if most.any (· < least) then throw .countsReversed
      let (greedy, r) := match r with
        | '?' :: r => (false, r)
        | r => (true, r)
      Reader.goOn r
      return .again least most greedy (before + 1) ((← get).groups + 1) piece

/-- The number of the group that has a name. -/
def numberOf? (names : GroupNames) (name : String) : Option Nat :=
  (names.findIdx? (· == some name)).map (· + 1)

/-- What an escape outside a class stands for. -/
def escape (names : GroupNames) (c : Char) (r : List Char) : Reader Pattern := do
  match escapedSet? c with
  | some s =>
      Reader.goOn r
      return .one [s] false
  | none =>
      if c = 'k' ∧ names.any (·.isSome) then
        match r with
        | '<' :: more =>
            match numberOf? names (String.ofList (more.takeWhile (· != '>'))) with
            | some i =>
                Reader.goOn ((more.dropWhile (· != '>')).drop 1)
                return .back i
            | none => throw .nameUnknown
        | _ => throw .nameUnknown
      else
        match if c = '0' then none else count? (c :: r) with
        | some (i, more) =>
            if i ≤ names.length then
              Reader.goOn more
              return .back i
            else
              let (d, r) := escapedChar c r
              Reader.goOn r
              return single d
        | none =>
            let (d, r) := escapedChar c r
            Reader.goOn r
            return single d

/-- What an opening bracket begins. -/
inductive Opening where
  | kept
  | grouped
  | ahead (negated : Bool)
  | behind (negated : Bool)

/-- Whether a text can name a group. -/
def isName (s : List Char) : Bool :=
  let letter (c : Char) : Bool := c.isAlpha || c == '_' || c == '$' || c.toNat > 0x7F
  match s with
  | [] => false
  | c :: r => letter c && r.all fun d => letter d || d.isDigit

/-- Reads what stands behind an opening bracket. -/
def opening (names : GroupNames) : Reader Opening := do
  match ← Reader.rest with
  | '?' :: ':' :: r => Reader.goOn r; return .grouped
  | '?' :: '=' :: r => Reader.goOn r; return .ahead false
  | '?' :: '!' :: r => Reader.goOn r; return .ahead true
  | '?' :: '<' :: '=' :: r => Reader.goOn r; return .behind false
  | '?' :: '<' :: '!' :: r => Reader.goOn r; return .behind true
  | '?' :: '<' :: r =>
      let name := r.takeWhile (· != '>')
      match r.drop name.length with
      | '>' :: r =>
          if !isName name then throw .nameInvalid
          if names.count (some (String.ofList name)) > 1 then throw .nameTwice
          Reader.goOn r
          return .kept
      | _ => throw .nameInvalid
  | '?' :: _ => throw .groupInvalid
  | _ => return .kept

/-- Reads alternatives up to a closing bracket or the end: `done` are those before, and `current`
is what has been read of the present one. -/
def alternatives (names : GroupNames) : Nat → (done : Option Pattern) → (current : Pattern) →
    Reader Pattern
  | 0, _, _ => throw .groupOpen
  | n + 1, done, current => do
      let close (p : Pattern) : Pattern := match done with
        | some before => .either before p
        | none => p
      let add (before : Nat) (piece : Pattern) : Reader Pattern := do
        alternatives names n done (.both current (← repeated before piece))
      let assertion (p : Pattern) (r : List Char) : Reader Pattern := do
        if (bounds? r).isSome then throw .nothingToRepeat
        Reader.goOn r
        alternatives names n done (.both current p)
      let before := (← get).groups
      match ← Reader.rest with
      | [] => return close current
      | ')' :: _ => return close current
      | '|' :: r =>
          Reader.goOn r
          alternatives names n (some (close current)) .empty
      | '^' :: r => assertion .textStart r
      | '$' :: r => assertion .textEnd r
      | '(' :: r =>
          Reader.goOn r
          let kind ← opening names
          if let .kept := kind then modify fun p => { p with groups := p.groups + 1 }
          let body ← alternatives names n none .empty
          match ← Reader.rest with
          | ')' :: r =>
              Reader.goOn r
              match kind with
              | .kept => add before (.group (before + 1) body)
              | .grouped => add before body
              | .ahead negated => add before (.ahead negated body)
              | .behind negated => assertion (.behind negated body) r
          | _ => throw .groupOpen
      | '.' :: r =>
          Reader.goOn r
          add before .inLine
      | '[' :: '^' :: r =>
          Reader.goOn r
          add before (.one (← members (r.length + 1)) true)
      | '[' :: r =>
          Reader.goOn r
          add before (.one (← members (r.length + 1)) false)
      | ['\\'] => throw .escapeOpen
      | '\\' :: 'b' :: r => assertion (.boundary false) r
      | '\\' :: 'B' :: r => assertion (.boundary true) r
      | '\\' :: c :: r => do add before (← escape names c r)
      | c :: r =>
          if (bounds? (c :: r)).isSome then throw .nothingToRepeat
          Reader.goOn r
          add before (single c)

/-- The pattern that a source describes. -/
def ofSource (source : List Char) : Except PatternFault Pattern := do
  let names := groupNames false source
  let (p, place) ← (alternatives names (source.length + 2) none .empty).run { rest := source }
  if place.rest.isEmpty then return p else throw .bracketUnmatched

/-- What the pattern with a source matches first in a text: the whole match and its groups. -/
def extract (source text : String) : Except PatternFault (Option (List (Option String))) := do
  let p ← ofSource source.toList
  return (p.firstMatch? text.toList).map fun parts => parts.map (·.map String.ofList)

end Pattern

end Text

end VoiceControl
