import VoiceControl.Data.Tree

/-!
# Checking data

A check reads a data value as a value of the program or lists everything that is wrong with it. The
issues of the parts of a value are collected in order, so one report names them all. The texts of
an issue and the fields of its report are fixed here.
-/

namespace VoiceControl

/-- One step from a value to a part of it. -/
inductive PathStep where
  | key (name : String)
  | index (n : Nat)
  deriving Repr, DecidableEq

/-- One thing that is wrong with a data value. -/
inductive Issue where
  | wrongType (path : List PathStep) (expected received : String)
  | notInteger (path : List PathStep)
  | tooSmall (path : List PathStep) (least : Number) (inclusive : Bool)
  | tooBig (path : List PathStep) (most : Number)
  | notAnOption (path : List PathStep) (options : List String) (received : String)
  | notTextOption (path : List PathStep) (options : List String) (received : String)

namespace Issue

/-- A list of options as a report spells it. -/
def optionList (options : List String) : String :=
  " | ".intercalate (options.map fun o => "'" ++ o ++ "'")

/-- What the issue says. -/
def message : Issue → String
  | .wrongType _ expected received => "Expected " ++ expected ++ ", received " ++ received
  | .notInteger _ => "Expected integer, received float"
  | .tooSmall _ least inclusive =>
      "Number must be greater than " ++ (if inclusive then "or equal to " else "") ++ least.text
  | .tooBig _ most => "Number must be less than or equal to " ++ most.text
  | .notAnOption _ options received =>
      "Invalid enum value. Expected " ++ optionList options ++ ", received '" ++ received ++ "'"
  | .notTextOption _ options received =>
      "Expected " ++ optionList options ++ ", received " ++ received

/-- Where the issue is. -/
def path : Issue → List PathStep
  | .wrongType p _ _ | .notInteger p | .tooSmall p _ _ | .tooBig p _ | .notAnOption p _ _
  | .notTextOption p _ _ => p

/-- A path as data. -/
def pathTree (path : List PathStep) : Tree :=
  .list (path.map fun
    | .key name => .text name
    | .index n => .nat n)

/-- The report on an issue, with its fields in the order of their printing. -/
def report (issue : Issue) : Tree :=
  let message := ("message", Tree.text issue.message)
  let path := ("path", pathTree issue.path)
  match issue with
  | .wrongType _ expected received =>
      .mapping [("code", .text "invalid_type"), ("expected", .text expected),
        ("received", .text received), path, message]
  | .notInteger _ =>
      .mapping [("code", .text "invalid_type"), ("expected", .text "integer"),
        ("received", .text "float"), message, path]
  | .tooSmall _ least inclusive =>
      .mapping [("code", .text "too_small"), ("minimum", .number least),
        ("type", .text "number"), ("inclusive", .bool inclusive), ("exact", .bool false),
        message, path]
  | .tooBig _ most =>
      .mapping [("code", .text "too_big"), ("maximum", .number most),
        ("type", .text "number"), ("inclusive", .bool true), ("exact", .bool false), message, path]
  | .notAnOption _ options received =>
      .mapping [("received", .text received), ("code", .text "invalid_enum_value"),
        ("options", .texts options), path, message]
  | .notTextOption _ options received =>
      .mapping [("expected", .text (optionList options)), ("received", .text received),
        ("code", .text "invalid_type"), path, message]

/-- The report on several issues. -/
def reportAll (issues : List Issue) : String := (Tree.list (issues.map report)).pretty

/-- One issue in a line of prose: its path and what it says. -/
def inLine (issue : Issue) : String :=
  ".".intercalate (issue.path.map fun
    | .key name => name
    | .index n => toString n) ++ ": " ++ issue.message

end Issue

/-- The outcome of a check: a value, or all issues found. -/
inductive Verdict (α : Type) where
  | valid (value : α)
  | invalid (issues : List Issue)

namespace Verdict

variable {α β : Type}

/-- The value of a check that succeeded. -/
def value? : Verdict α → Option α
  | .valid a => some a
  | .invalid _ => none

/-- The issues of a check. -/
def issues : Verdict α → List Issue
  | .valid _ => []
  | .invalid is => is

/-- Both parts must be valid; the issues of the first come first. -/
def both (f : Verdict (α → β)) (x : Verdict α) : Verdict β :=
  match f, x with
  | .valid f, .valid x => .valid (f x)
  | .valid _, .invalid bs => .invalid bs
  | .invalid as, x => .invalid (as ++ x.issues)

instance : Applicative Verdict where
  pure := .valid
  seq f x := both f (x ())

/-- Checks every element and collects the issues in order. -/
def all (check : α → Verdict β) : List α → Verdict (List β)
  | [] => .valid []
  | a :: as => both (both (.valid List.cons) (check a)) (all check as)

end Verdict

/-- A check of a data value at a path. -/
abbrev Check (α : Type) := List PathStep → Tree → Verdict α

namespace Check

variable {α β : Type}

/-- A truth value. -/
def bool : Check Bool := fun path t =>
  match t with
  | .bool b => .valid b
  | t => .invalid [.wrongType path "boolean" t.kindName]

/-- A text. -/
def text : Check String := fun path t =>
  match t with
  | .text s => .valid s
  | t => .invalid [.wrongType path "string" t.kindName]

/-- Anything. -/
def any : Check Tree := fun _ t => .valid t

/-- A number that passes tests; each test that fails is an issue of its own. -/
def number (tests : List (List PathStep → Number → Option Issue)) : Check Number := fun path t =>
  match t with
  | .number n =>
      if n = .nan then .invalid [.wrongType path "number" t.kindName]
      else
        match tests.filterMap fun test => test path n with
        | [] => .valid n
        | issues => .invalid issues
  | t => .invalid [.wrongType path "number" t.kindName]

/-- The test for an integer. -/
def isInteger (path : List PathStep) (n : Number) : Option Issue :=
  if n.isInteger then none else some (.notInteger path)

/-- The test for a least value. -/
def atLeast (least : Number) (path : List PathStep) (n : Number) : Option Issue :=
  if n.lt least then some (.tooSmall path least true) else none

/-- The test for a value above a bound. -/
def above (bound : Number) (path : List PathStep) (n : Number) : Option Issue :=
  if n.le bound then some (.tooSmall path bound false) else none

/-- The test for a greatest value. -/
def atMost (most : Number) (path : List PathStep) (n : Number) : Option Issue :=
  if most.lt n then some (.tooBig path most) else none

/-- A natural number: an integer that passes the other tests. -/
def natural (tests : List (List PathStep → Number → Option Issue)) : Check Nat := fun path t =>
  (fun n => n.toNat?.getD 0) <$> number (isInteger :: tests) path t

/-- One of several texts. -/
def option (options : List String) : Check String := fun path t =>
  match t with
  | .text s => if s ∈ options then .valid s else .invalid [.notAnOption path options s]
  | t => .invalid [.notTextOption path options t.kindName]

/-- A list of values. -/
def list (check : Check α) : Check (List α) := fun path t =>
  match t with
  | .list ts => Verdict.all (fun (t, i) => check (path ++ [.index i]) t) ts.zipIdx
  | t => .invalid [.wrongType path "array" t.kindName]

/-- A mapping with values of one kind under any keys. -/
def table (check : Check α) : Check (Entries α) := fun path t =>
  match t with
  | .mapping es =>
      Verdict.all (fun (k, t) => (fun v => (k, v)) <$> check (path ++ [.key k]) t) es
  | t => .invalid [.wrongType path "object" t.kindName]

/-- A mapping with known keys; other keys are ignored. -/
def fields (check : List PathStep → Entries Tree → Verdict α) : Check α := fun path t =>
  match t with
  | .mapping es => check path es
  | t => .invalid [.wrongType path "object" t.kindName]

/-- The value of a key, or a default where the key is missing. -/
def field (key : String) (default : α) (check : Check α) (path : List PathStep)
    (es : Entries Tree) : Verdict α :=
  match Entries.get? key es with
  | none => .valid default
  | some t => check (path ++ [.key key]) t

/-- The value of a key that may be missing. -/
def maybeField (key : String) (check : Check α) (path : List PathStep) (es : Entries Tree) :
    Verdict (Option α) :=
  field key none (fun p t => some <$> check p t) path es

/-- The mapping under a key, which has to be there. -/
def sectionTable (key : String) (check : Check α) (path : List PathStep) (es : Entries Tree) :
    Verdict (Entries α) :=
  match Entries.get? key es with
  | some t => table check (path ++ [.key key]) t
  | none => .invalid [.wrongType (path ++ [.key key]) "object" "undefined"]

/-- The value of a section, which is an empty mapping where its key is missing. -/
def sectionOf (key : String) (check : List PathStep → Entries Tree → Verdict α)
    (path : List PathStep) (es : Entries Tree) : Verdict α :=
  fields check (path ++ [.key key]) ((Entries.get? key es).getD (.mapping []))

end Check

end VoiceControl
