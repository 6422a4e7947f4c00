import VoiceControl.Data.Yaml.Scalar
import VoiceControl.Data.Yaml.Text

/-!
# Reading data files

Data files are YAML: block and flow collections, plain and quoted scalars, blocks of lines and
comments, with scalars resolved by the core schema. `Yaml.parse` gives the value of a file, a
missing value for an empty one, and nothing for a malformed one; a key that occurs twice in a
mapping, a collection or quote that is not closed and a mapping inside the line of a key are
malformed.
-/

namespace VoiceControl

namespace Yaml

/-- Entries under construction: keys as the values they were written as, last first. -/
abbrev Pairs := List (Tree × Tree)

/-- Adds an entry whose key has not occurred. -/
def addPair (key value : Tree) (ps : Pairs) : Option Pairs :=
  if ps.any fun (k, _) => k.same key then none else some ((key, value) :: ps)

/-- The mapping that finished entries make up. -/
def mappingOf (ps : Pairs) : Tree :=
  Tree.ofPairs (ps.reverse.map fun (k, v) => (k.keyText, v))

/-- A scalar inside a flow collection: quoted, or plain over several lines. Says whether it was
quoted. -/
def flowScalar (c : Cursor) : Option ((Tree × Bool) × Cursor) :=
  match c.rest with
  | [] => none
  | q :: _ =>
      if q = '\x22' ∨ q = '\x27' then
        (quotedScalar c).map fun (t, c') => ((.text (String.ofList t), true), c')
      else if startsPlain true c.rest then
        let t := trimLine (plainOnLine true false c.rest).1
        (plainMore (c.rest.length + 1) true (-1) t (c.advance t.length)).map
          fun (s, c') => ((resolve s, false), c')
      else none

/-- The place behind a colon that ends a flow key, when one comes next. -/
def flowColon? (quoted : Bool) (c : Cursor) : Option Cursor :=
  match c.rest with
  | ':' :: r => if quoted || endsKey true r then some (c.advance 1) else none
  | _ => none

mutual

/-- A value inside a flow collection, at its first character. -/
def flowValue (fuel : Nat) (c : Cursor) : Option (Tree × Cursor) :=
  match fuel with
  | 0 => none
  | fuel + 1 =>
      match c.rest with
      | '[' :: _ => flowItems fuel [] (c.advance 1).next.1
      | '\x7b' :: _ => flowEntries fuel [] (c.advance 1).next.1
      | _ => (flowScalar c).map fun ((t, _), c') => (t, c')

/-- The elements of a flow list, last first, up to its closing bracket. -/
def flowItems (fuel : Nat) (items : List Tree) (c : Cursor) : Option (Tree × Cursor) :=
  match fuel with
  | 0 => none
  | fuel + 1 =>
      match c.rest with
      | [] => none
      | ']' :: _ => some (.list items.reverse, c.advance 1)
      | start :: _ =>
          let quoted := start == '\x22' || start == '\x27'
          match flowValue fuel c with
          | none => none
          | some (item, c1) =>
              let c2 := c1.next.1
              let entry := match flowColon? quoted c2 with
                | none => some (item, c2)
                | some c3 =>
                    match flowEntryValue fuel c3.next.1 with
                    | none => none
                    | some (value, c4) => some (mappingOf [(item, value)], c4.next.1)
              match entry with
              | none => none
              | some (item, c2) =>
                  match c2.rest with
                  | ',' :: _ => flowItems fuel (item :: items) (c2.advance 1).next.1
                  | ']' :: _ => some (.list (item :: items).reverse, c2.advance 1)
                  | _ => none

/-- The value of a flow entry behind its colon; nothing in front of a mark is a missing value. -/
def flowEntryValue (fuel : Nat) (c : Cursor) : Option (Tree × Cursor) :=
  match fuel with
  | 0 => none
  | fuel + 1 =>
      match c.rest with
      | [] => none
      | m :: _ =>
          if m = ',' ∨ m = '\x7d' ∨ m = ']' then some (.null, c) else flowValue fuel c

/-- The entries of a flow mapping, last first, up to its closing brace. -/
def flowEntries (fuel : Nat) (pairs : Pairs) (c : Cursor) : Option (Tree × Cursor) :=
  match fuel with
  | 0 => none
  | fuel + 1 =>
      match c.rest with
      | [] => none
      | '\x7d' :: _ => some (mappingOf pairs, c.advance 1)
      | _ =>
          let key := match flowColon? false c with
            | some _ => some ((Tree.null, false), c)
            | none => flowScalar c
          match key with
          | none => none
          | some ((key, quoted), c1) =>
              let c2 := c1.next.1
              let value := match flowColon? quoted c2 with
                | none => some (Tree.null, c2)
                | some c3 => flowEntryValue fuel c3.next.1
              match value with
              | none => none
              | some (value, c3) =>
                  let c4 := c3.next.1
                  match addPair key value pairs with
                  | none => none
                  | some pairs =>
                      match c4.rest with
                      | ',' :: _ => flowEntries fuel pairs (c4.advance 1).next.1
                      | '\x7d' :: _ => some (mappingOf pairs, c4.advance 1)
                      | _ => none

end

/-- Whether a list entry's dash stands here. -/
def atDash : List Char → Bool
  | '-' :: r => atBreak r
  | _ => false

/-- The key that stands at the cursor, with the place behind its colon: a quoted or plain scalar
on one line. -/
def blockKey? (c : Cursor) : Option (Tree × Cursor) :=
  match c.rest with
  | [] => none
  | q :: _ =>
      if q = '\x22' ∨ q = '\x27' then
        match quotedScalar c with
        | none => none
        | some (t, c1) =>
            let passed := c.rest.take (c.rest.length - c1.rest.length)
            let c2 := c1.skipSpaces
            match c2.rest with
            | ':' :: r =>
                if endsKey false r && !passed.contains '\n' then
                  some (.text (String.ofList t), c2.advance 1)
                else none
            | _ => none
      else if startsPlain false c.rest then
        let (t, rest) := plainOnLine false false c.rest
        match rest with
        | ':' :: r => some (resolve (trimLine t), c.moveTo r)
        | _ => none
      else none

/-- A scalar or flow collection in block context, with the place of the next line's token. -/
def blockLeaf (parent : Int) (c : Cursor) : Option (Tree × Cursor) :=
  match c.rest with
  | [] => none
  | q :: _ =>
      let fuel := c.rest.length + 1
      let leaf : Option (Tree × Cursor) :=
        if q = '|' ∨ q = '>' then
          (blockScalar parent c).map fun (t, c') => (.text (String.ofList t), c')
        else if q = '[' ∨ q = '\x7b' then flowValue fuel c
        else if q = '\x22' ∨ q = '\x27' then
          (quotedScalar c).map fun (t, c') => (.text (String.ofList t), c')
        else if startsPlain false c.rest then
          let t := trimLine (plainOnLine false false c.rest).1
          (plainMore fuel false parent t (c.advance t.length)).map
            fun (s, c') => (resolve s, c')
        else none
      match leaf with
      | none => none
      | some (t, c') => (c'.nextLine).map fun c'' => (t, c'')

mutual

/-- The value at the cursor inside a collection at column `parent`, with the place of the next
line's token. Behind a key on the same line no block collection may start. -/
def blockValue (fuel : Nat) (parent : Int) (behindKey : Bool) (c : Cursor) :
    Option (Tree × Cursor) :=
  match fuel with
  | 0 => none
  | fuel + 1 =>
      if atDash c.rest then
        if behindKey then none else blockItems fuel c.column [] c
      else
        match blockKey? c with
        | some (key, c1) => if behindKey then none else blockEntries fuel c.column [] key c1
        | none => blockLeaf parent c

/-- The elements of a block list at a column, last first, from the next dash on. -/
def blockItems (fuel : Nat) (column : Nat) (items : List Tree) (c : Cursor) :
    Option (Tree × Cursor) :=
  match fuel with
  | 0 => none
  | fuel + 1 =>
      match (c.advance 1).nextBlock with
      | none => none
      | some (c1, gap) =>
          let item :=
            if c1.rest.isEmpty || c1.atDocumentEnd || (gap.broken && c1.column ≤ column) then
              some (Tree.null, c1)
            else blockValue fuel column false c1
          match item with
          | none => none
          | some (item, c2) =>
              if c2.rest.isEmpty || c2.atDocumentEnd || c2.column < column then
                some (.list (item :: items).reverse, c2)
              else if column < c2.column then none
              else if atDash c2.rest then blockItems fuel column (item :: items) c2
              else some (.list (item :: items).reverse, c2)

/-- The entries of a block mapping at a column, last first, from behind the colon of `key` on. -/
def blockEntries (fuel : Nat) (column : Nat) (pairs : Pairs) (key : Tree) (c : Cursor) :
    Option (Tree × Cursor) :=
  match fuel with
  | 0 => none
  | fuel + 1 =>
      match c.nextBlock with
      | none => none
      | some (c1, gap) =>
          let value :=
            if c1.rest.isEmpty || c1.atDocumentEnd then some (Tree.null, c1)
            else if !gap.broken then blockValue fuel column true c1
            else if column < c1.column then blockValue fuel column false c1
            -- a list may stand at the column of the key that it belongs to
            else if column = c1.column && atDash c1.rest then blockItems fuel column [] c1
            else some (Tree.null, c1)
          match value with
          | none => none
          | some (value, c2) =>
              match addPair key value pairs with
              | none => none
              | some pairs =>
                  if c2.rest.isEmpty || c2.atDocumentEnd || c2.column < column then
                    some (mappingOf pairs, c2)
                  else if column < c2.column then none
                  else
                    match blockKey? c2 with
                    | some (key, c3) => blockEntries fuel column pairs key c3
                    | none => none

end

/-- Drops the byte order mark and joins the two characters of a foreign line end. -/
def normalise : List Char → List Char
  | [] => []
  | '\r' :: '\n' :: r => '\n' :: normalise r
  | c :: r => c :: normalise r

/-- The value of a data file. -/
def parse (source : String) : Option Tree :=
  let s := normalise (match source.toList with
    | '\uFEFF' :: r => r
    | s => s)
  let fuel := 4 * s.length + 8
  match (Cursor.mk s 0).nextBlock with
  | none => none
  | some (c, _) =>
      let c := if c.column == 0 && atMarker '-' c.rest then (c.advance 3).nextBlock
        else some (c, ⟨true, true, false⟩)
      match c with
      | none => none
      | some (c, _) =>
          if c.rest.isEmpty then some .null
          else if c.atDocumentEnd then
            if atMarker '.' c.rest && (c.advance 3).next.1.rest.isEmpty then some .null else none
          else
            match blockValue fuel (-1) false c with
            | none => none
            | some (t, c') =>
                if c'.rest.isEmpty then some t
                else if c'.column == 0 && atMarker '.' c'.rest &&
                    (c'.advance 3).next.1.rest.isEmpty then
                  some t
                else none

end Yaml

end VoiceControl
