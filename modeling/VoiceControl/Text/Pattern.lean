import VoiceControl.Text.Blank
import VoiceControl.Text.Case

/-!
# Patterns

Regular patterns over texts, compared without regard to case. Of several ways to match, the first
counts: the left side of an alternative, and as many repetitions as possible where a repetition is
greedy. `Pattern.run` follows a pattern and hands every way on to what comes next, so a later
failure makes it try the next way.
-/

namespace VoiceControl

namespace Text

/-- A set of characters that a pattern names. -/
inductive CharSet where
  | range (first last : Char)
  | digit
  | blank
  | wordChar
  | other (s : CharSet)
  deriving Repr, DecidableEq

namespace CharSet

/-- Whether a character itself is in the set. -/
def holds : CharSet → Char → Bool
  | .range a b, c => a ≤ c && c ≤ b
  | .digit, c => c.isDigit
  | .blank, c => isBlank c
  | .wordChar, c => isWordChar c
  | .other s, c => !s.holds c

/-- The characters that count as the same without regard to case. -/
def sameCase (c : Char) : List Char :=
  let key := caseKey c
  [c, key] ++ (lowerChar key).filter fun d => caseKey d == key

/-- Whether a character is in one of some sets, up to case. -/
def anyHolds (sets : List CharSet) (c : Char) : Bool :=
  (sameCase c).any fun d => sets.any (·.holds d)

end CharSet

/-- A pattern. -/
inductive Pattern where
  | empty
  /-- One character of the sets, or one of none of them. -/
  | one (sets : List CharSet) (negated : Bool)
  /-- One character that ends no line. -/
  | inLine
  | textStart
  | textEnd
  | boundary (negated : Bool)
  | both (first second : Pattern)
  | either (first second : Pattern)
  /-- A group whose match is kept under a number. -/
  | group (number : Nat) (body : Pattern)
  /-- Repetition of a body that holds the groups from `from` up to `upTo`. -/
  | again (least : Nat) (most : Option Nat) (greedy : Bool) («from» upTo : Nat) (body : Pattern)
  /-- The same text as a group before. -/
  | back (number : Nat)
  /-- What follows matches, or does not. -/
  | ahead (negated : Bool) (body : Pattern)
  /-- What precedes matches, or does not. -/
  | behind (negated : Bool) (body : Pattern)
  deriving Repr, DecidableEq

namespace Pattern

/-- How far a match has come, and what its groups matched: start and end of each. -/
structure Spot where
  position : Nat
  groups : Nat → Option (Nat × Nat)

/-- A way on from a place in a match. -/
abbrev Way := Spot → Option Spot

/-- The character on the way: behind the position forwards, in front of it backwards. -/
def next? (text : Array Char) (forward : Bool) (position : Nat) : Option Char :=
  if forward then text[position]?
  else if position = 0 then none else text[position - 1]?

/-- The position one character on. -/
def advance (forward : Bool) (position : Nat) : Nat :=
  if forward then position + 1 else position - 1

/-- Matches one character that satisfies `accepts`. -/
def step (text : Array Char) (forward : Bool) (accepts : Char → Bool) (s : Spot) (on : Way) :
    Option Spot :=
  match next? text forward s.position with
  | some c => if accepts c then on { s with position := advance forward s.position } else none
  | none => none

/-- Whether a character ends a line. -/
def endsLine (c : Char) : Bool := c == '\n' || c == '\r' || c == '\u2028' || c == '\u2029'

/-- Whether a position is a word boundary. -/
def atBoundary (text : Array Char) (position : Nat) : Bool :=
  (next? text false position).any isWordChar != (next? text true position).any isWordChar

/-- Matches a text again, up to case. -/
def sameAgain (text : Array Char) (forward : Bool) : List Char → Spot → Way → Option Spot
  | [], s, on => on s
  | c :: r, s, on =>
      step text forward (fun d => caseKey d == caseKey c) s fun s => sameAgain text forward r s on

/-- Goes on without what the groups from `lo` up to `hi` matched before. -/
def forget (lo hi : Nat) (s : Spot) : Spot :=
  { s with groups := fun i => if lo ≤ i ∧ i < hi then none else s.groups i }

/-- Repeats a body, at least `least` and at most `most` times; a repetition that is not needed must
get on. The first argument bounds the number of repetitions. -/
def iterate (body : Spot → Way → Option Spot) (greedy : Bool) (lo hi : Nat) :
    Nat → Nat → Option Nat → Spot → Way → Option Spot
  | 0, _, _, _, _ => none
  | n + 1, least, most, s, on =>
      if most = some 0 then on s
      else
        let once (_ : Unit) : Option Spot :=
          body (forget lo hi s) fun t =>
            -- a free round that got nowhere could be repeated without end
            if least = 0 ∧ t.position = s.position then none
            else iterate body greedy lo hi n (least - 1) (most.map (· - 1)) t on
        if least ≠ 0 then once ()
        else if greedy then (once ()).orElse fun _ => on s
        else (on s).orElse once

/-- Matches a pattern from a spot on and then what comes next. -/
def run (text : Array Char) (forward : Bool) : Pattern → Spot → Way → Option Spot
  | .empty, s, on => on s
  | .one sets negated, s, on =>
      step text forward (fun c => CharSet.anyHolds sets c != negated) s on
  | .inLine, s, on => step text forward (fun c => !endsLine c) s on
  | .textStart, s, on => if s.position = 0 then on s else none
  | .textEnd, s, on => if s.position = text.size then on s else none
  | .boundary negated, s, on => if atBoundary text s.position != negated then on s else none
  | .both a b, s, on =>
      if forward then run text forward a s fun t => run text forward b t on
      else run text forward b s fun t => run text forward a t on
  | .either a b, s, on => (run text forward a s on).orElse fun _ => run text forward b s on
  | .group i body, s, on =>
      run text forward body s fun t =>
        let span := if forward then (s.position, t.position) else (t.position, s.position)
        on { t with groups := fun j => if j = i then some span else t.groups j }
  | .again least most greedy lo hi body, s, on =>
      iterate (run text forward body) greedy lo hi (least + text.size + 2) least most s on
  | .back i, s, on =>
      match s.groups i with
      | none => on s
      | some (a, b) =>
          let part := (text.extract a b).toList
          sameAgain text forward (if forward then part else part.reverse) s on
  | .ahead negated body, s, on =>
      match run text true body s some, negated with
      | some t, false => on { t with position := s.position }
      | none, true => on s
      | _, _ => none
  | .behind negated body, s, on =>
      match run text false body s some, negated with
      | some t, false => on { t with position := s.position }
      | none, true => on s
      | _, _ => none

/-- The number of groups of a pattern. -/
def groupCount : Pattern → Nat
  | .both a b | .either a b => a.groupCount + b.groupCount
  | .group _ body => body.groupCount + 1
  | .again _ _ _ _ _ body | .ahead _ body | .behind _ body => body.groupCount
  | _ => 0

/-- What a pattern matches first in a text, and what its groups match. -/
def firstMatch? (p : Pattern) (s : List Char) : Option (List (Option (List Char))) :=
  let text := s.toArray
  (List.range (text.size + 1)).findSome? fun start =>
    (run text true p ⟨start, fun _ => none⟩ some).map fun t =>
      let part : Nat × Nat → List Char := fun (a, b) => (text.extract a b).toList
      some (part (start, t.position)) ::
        (List.range p.groupCount).map fun i => (t.groups (i + 1)).map part

end Pattern

end Text

end VoiceControl
