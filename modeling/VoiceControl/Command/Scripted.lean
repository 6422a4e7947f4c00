import VoiceControl.Command.Basic
import VoiceControl.Config.Store

/-!
# Scripted commands

Commands that do as data says: what they accept, whether they are valid, and what they give or
raise. With them the registry can be watched without any effect on a desktop.
-/

namespace VoiceControl.Command

/-- What a part of a script raises, if it raises something. -/
def raised? (t : Tree) : Option Failure :=
  match t with
  | .mapping es =>
      match Entries.get? "throw" es, Entries.get? "raw" es, Entries.get? "exec" es with
      | some m, _, _ => some (.plain m.plainText)
      | none, some v, _ => some (.ofValue v)
      | none, none, some (.list [.text name, .text detail]) => some (.execution name detail none)
      | _, _, _ => none
  | _ => none

/-- Whether a matcher of a script accepts a text: any text, one text, or those with a start. -/
def scriptAccepts (matcher : Tree) (text : String) : Bool :=
  Config.bool? matcher ["any"] = some true ||
    Config.text? matcher ["equals"] = some text ||
    (Config.text? matcher ["prefix"]).any fun s => Text.startsWith s.toList text.toList

/-- The command that a script describes. -/
def scripted (id : Nat) (script : Tree) : Command :=
  let part (key : String) : Tree := (Config.lookup? script [key]).getD .null
  let name := (Config.text? script ["id"]).getD ""
  { id := id
    name := name
    priority := (Config.number? script ["priority"]).getD Priority.normal
    description := (Config.text? script ["description"]).getD (name ++ " command")
    examples := match part "examples" with
      | .list ts => ts.map Tree.plainText
      | _ => []
    category := (Config.text? script ["category"]).getD "Test"
    enabled := (Config.bool? script ["enabled"]).getD true
    accepts := fun text =>
      match raised? (part "matches") with
      | some f => .error f
      | none => .ok (scriptAccepts (part "matches") text)
    validate := fun _ =>
      match raised? (part "validate") with
      | some f => throw f
      | none => pure ((Config.bool? script ["validate"]).getD true)
    execute := fun text =>
      match raised? (part "execute"), part "execute" with
      | some f, _ => throw f
      | none, .text s => pure (some (if s = "$text" then text else s))
      | none, _ => pure none }

end VoiceControl.Command
