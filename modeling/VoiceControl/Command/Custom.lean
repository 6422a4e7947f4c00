import VoiceControl.Command.Basic
import VoiceControl.Config.Settings
import VoiceControl.Data.Reserved
import VoiceControl.Speech.Lexicon

/-!
# Custom commands

Commands that the user defines in the configuration: a trigger phrase with one action, which types
or copies a text, launches a file or presses keys together.
-/

namespace VoiceControl

open VoiceControl.Text

/-- What a custom command does. -/
inductive CustomAction where
  | typeText (text : String)
  | copyText (text : String)
  | launchFile (path : String)
  | pressKeys (keys : List String)
  deriving Repr, DecidableEq

namespace CustomAction

/-- The name of an action's kind in data. -/
def label : CustomAction → String
  | .typeText _ => "type_text"
  | .copyText _ => "copy_to_clipboard"
  | .launchFile _ => "execute_file"
  | .pressKeys _ => "key_combination"

/-- The most of a text that a description shows. -/
def shownLength : Nat := 30

/-- A text, cut where it is too long to show. -/
def shortened (s : String) : String :=
  if unitCount s.toList > shownLength then
    String.ofList (takeUnits (shownLength - 3) s.toList) ++ "..."
  else s

/-- What an action does, in words. -/
def describe : CustomAction → String
  | .typeText t => "Type: " ++ shortened t
  | .copyText t => "Copy: " ++ shortened t
  | .launchFile p => "Run: " ++ Path.baseName p
  | .pressKeys ks => "Press: " ++ "+".intercalate ks

/-- An action as data. -/
def tree (a : CustomAction) : Tree :=
  .mapping (("type", .text a.label) :: (match a with
    | .typeText t | .copyText t => [("text", .text t)]
    | .launchFile p => [("path", .text p)]
    | .pressKeys ks => [("keys", .texts ks)]))

/-- The texts of a list of texts. -/
def allTexts? : List Tree → Option (List String)
  | [] => some []
  | .text s :: ts => (allTexts? ts).map (s :: ·)
  | _ :: _ => none

/-- The action that data describes. -/
def ofTree? (t : Tree) : Option CustomAction := do
  let es ← t.mapping?
  let textAt (key : String) : Option String :=
    match Entries.get? key es with
    | some (.text s) => some s
    | _ => none
  match ← textAt "type" with
  | "type_text" => .typeText <$> textAt "text"
  | "copy_to_clipboard" => .copyText <$> textAt "text"
  | "execute_file" => .launchFile <$> textAt "path"
  | "key_combination" =>
      match Entries.get? "keys" es with
      | some (.list ts) => .pressKeys <$> allTexts? ts
      | _ => none
  | _ => none

end CustomAction

/-- A custom command as it is configured. -/
structure CustomDefinition where
  trigger : String
  action : CustomAction

namespace CustomDefinition

/-- The definition that data describes; a trigger is not empty. -/
def ofTree? (t : Tree) : Option CustomDefinition := do
  let es ← t.mapping?
  let action ← CustomAction.ofTree? (← Entries.get? "action" es)
  match Entries.get? "trigger" es with
  | some (.text trigger) => if trigger = "" then none else some ⟨trigger, action⟩
  | _ => none

/-- The phrase that utterances are compared with. -/
def phrase (d : CustomDefinition) : String := trimText (lowerText d.trigger)

end CustomDefinition

namespace EnvironmentReference

/-- A reference to a variable at the start of a text, with the number of characters it takes up:
`${NAME}`, `$NAME` or `%NAME%`. -/
def atStart? (s : List Char) : Option (String × Nat) :=
  let named (rest : List Char) : List Char × List Char := rest.span isWordChar
  let plain (rest : List Char) : Option (String × Nat) :=
    match named rest with
    | ([], _) => none
    | (name, _) => some (String.ofList name, name.length + 1)
  match s with
  | '$' :: '\x7b' :: rest =>
      match named rest with
      | (c :: name, '\x7d' :: _) => some (String.ofList (c :: name), name.length + 4)
      | _ => none
  | '$' :: rest => plain rest
  | '%' :: rest =>
      match named rest with
      | (c :: name, '%' :: _) => some (String.ofList (c :: name), name.length + 3)
      | _ => none
  | _ => none

/-- Replaces the references to variables that the environment answers for, in one pass from the
left; of the text, `skip` characters belong to the reference before, and they are left out if
`drop` says so. -/
def expandFrom (environment : Environment) (skip : Nat) (drop : Bool) : List Char → List Char
  | [] => []
  | c :: r =>
      match skip with
      | n + 1 =>
          if drop then expandFrom environment n drop r else c :: expandFrom environment n drop r
      | 0 =>
          match atStart? (c :: r) with
          | none => c :: expandFrom environment 0 false r
          | some (name, length) =>
              match Entries.answer? name environment with
              | some v => v.toList ++ expandFrom environment (length - 1) true r
              | none => c :: expandFrom environment (length - 1) false r

/-- A path with the variables that are set in the place of their references. -/
def expand (environment : Environment) (path : String) : String :=
  String.ofList (expandFrom environment 0 false path.toList)

/-- The variables that a text refers to. -/
def names : List Char → List String
  | [] => []
  | c :: r =>
      match atStart? (c :: r) with
      | some (name, _) => name :: names r
      | none => names r

end EnvironmentReference

namespace Command

/-- Carries out a custom action; says whether there was anything to do. -/
def performCustom (name : String) : CustomAction → Act Bool
  | .typeText t => do
      if t = "" then
        Act.note .nothingToType
        return false
      Act.act (.typeText t)
      return true
  | .copyText t => do
      if t = "" then
        Act.note .nothingToCopy
        return false
      if ← Act.hasSystem then Act.act (.copyText t)
      return true
  | .launchFile p => do
      let path := EnvironmentReference.expand (← get).environment p
      let there ← if ← Act.hasSystem then Act.fileExists path else pure false
      if there then
        Act.act (.launch path)
        return true
      else throw (.execution name ("File not found: " ++ path) none)
  | .pressKeys ks => do
      if ks.isEmpty then
        Act.note .noKeys
        return false
      Act.withModifiers ks (pure ())
      return true

/-- Whether an action needs the system. -/
def needsSystem : CustomAction → Bool
  | .copyText _ | .launchFile _ => true
  | _ => false

/-- A command of the user's. With a lexicon, texts that are much like the trigger are accepted
too. -/
def custom (id : Nat) (d : CustomDefinition) (fuzzy : Option Lexicon := none) : Command where
  id := id
  name := "CustomCommand"
  priority := Priority.high
  description := d.action.describe
  examples := [d.phrase]
  category := "Custom"
  accepts := plainly fun clean =>
    clean = d.phrase.toList || fuzzy.any fun lx => lx.isAlike clean d.phrase.toList
  validate _ := if needsSystem d.action then Act.hasSystem else pure true
  execute text := do
    if ← performCustom "CustomCommand" d.action then
      report "CustomCommand" text
        [("trigger", .text d.phrase), ("action", .text d.action.label)]
    return none

/-- The definitions of a configured section that can be used, in order; the others are skipped
with a notice each. A section that is switched off has none. -/
def definitions (configured : CustomSettings) : List CustomDefinition × List Notice :=
  if configured.enabled then
    let read := configured.commands.map CustomDefinition.ofTree?
    (read.filterMap (fun d => d), (read.filter (·.isNone)).map fun _ => .customSkipped)
  else ([], [])

/-- The commands of a configured section, numbered from `first`. -/
def customs (first : Nat) (s : CustomSettings) (lx : Option Lexicon) :
    List Command × List Notice :=
  let (ds, notices) := definitions s
  (ds.zipIdx.map fun (d, i) => custom (first + i) d (if s.fuzzy then lx else none), notices)

end Command

end VoiceControl
