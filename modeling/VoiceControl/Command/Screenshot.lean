import VoiceControl.Command.Basic
import VoiceControl.Number.Reading

/-!
# Screenshot commands

Taking screenshots into a directory, and giving the paths of those that are there: the k-th newest,
or the newest few.
-/

namespace VoiceControl

/-- A directory of screenshots. -/
structure ScreenshotStore where
  directory : String

namespace ScreenshotStore

/-- The directory of screenshots where none is configured: one of the user's own. -/
def defaultDirectory (environment : Environment) : String :=
  Path.join ((Entries.get? "HOME" environment).getD "") "Pictures/Screenshots"

/-- Where a screenshot of a moment goes. -/
def pathFor (s : ScreenshotStore) (m : Moment) : String :=
  Path.join s.directory ("screenshot_" ++ m.stamp ++ ".png")

/-- Whether a file name is that of a screenshot. -/
def isScreenshotName (name : String) : Bool :=
  match Text.after? "screenshot_".toList name.toList with
  | none => false
  | some rest =>
      match Text.after? ".png".toList.reverse rest.reverse with
      | none => false
      | some middle => !middle.any fun c => c == '\n' || c == '\r' || c == '\u2028' || c == '\u2029'

/-- The screenshots, newest first. -/
def list (s : ScreenshotStore) (files : Files) : Except Failure (List FileEntry) :=
  files.newestFirst s.directory isScreenshotName

end ScreenshotStore

/-- Which screenshots an utterance asks for. -/
inductive ScreenshotRequest where
  /-- The one with an index, the newest being 1. -/
  | single (index : Number)
  /-- The newest few. -/
  | newest (count : Number)
  deriving Repr, DecidableEq

namespace ScreenshotRequest

open VoiceControl.Text

/-- What follows the first of some words that a text begins with. -/
def afterOneOf? (ws : List String) (s : List Char) : Option (List Char) :=
  ws.findSome? fun w => after? w.toList s

/-- What follows the words for a screenshot at the start of a text. -/
def afterShot? (s : List Char) : Option (List Char) := do
  let rest ← afterOneOf? ["screen", "green"] s
  after? "shot".toList (rest.dropWhile isBlank)

/-- The number that a text of digits means. -/
def digits? (s : List Char) : Option Number :=
  if !s.isEmpty && s.all Char.isDigit then some (Number.ofDigits s) else none

/-- The number after "last" and at least one blank. -/
def lastCount? (s : List Char) : Option Number := do
  match ← after? "last".toList s with
  | [] => none
  | c :: r => if isBlank c then digits? (r.dropWhile isBlank) else none

/-- What a plain utterance asks for. A screenshot without anything to choose one by is no
request. -/
def ofPlain? (clean : List Char) : Option ScreenshotRequest := do
  let lead := afterOneOf? ["reference", "paste", "latest"] clean
  let shot ← afterShot? ((lead.getD clean).dropWhile isBlank)
  let shot := shot.dropWhile isBlank
  let rest := ((afterOneOf? ["path", "file"] shot).getD shot).dropWhile isBlank
  match lastCount? rest with
  | some n => return .newest n
  | none =>
      match rest with
      | [] => if lead.isSome then some (.single 1) else none
      | _ => return .single (← digits? rest)

/-- What an utterance asks for. -/
def of? (text : String) : Option ScreenshotRequest := ofPlain? (Utterance.plain text.toList)

end ScreenshotRequest

namespace Command

/-- The heading of the screenshot commands. -/
def screenshotCategory : String := "Screenshot"

/-- The phrases that take a screenshot, with what recognisers make of them. -/
def capturePhrases : List String :=
  ["screenshot", "take screenshot", "screen shot", "green shot", "take green shot", "greenshot"]

/-- Takes a screenshot at a moment, now if none is given. Whatever goes wrong is a failure of the
command. -/
def screenshot (id : Nat) (store : ScreenshotStore) (moment : Option Moment := none) : Command where
  id := id
  name := "ScreenshotCommand"
  priority := Priority.medium
  description := "Take a screenshot and save it to the screenshots folder"
  examples := ["screenshot", "take screenshot", "green shot"]
  category := screenshotCategory
  accepts := plainly (isOneOf capturePhrases)
  validate _ := Act.hasSystem
  execute text := do
    let path := store.pathFor (moment.getD (← get).now)
    let capture : Act Unit := do
      let files ← Act.conclude ((← get).files.ensureDirectory store.directory)
      modify fun w => { w with files }
      if ← Act.hasSystem then Act.act (.capture path)
    match ← Act.attempt capture with
    | .error f =>
        let cause ← Act.conclude f.asError
        throw (.execution "ScreenshotCommand" ("Failed to take screenshot: " ++ cause.message)
          (some cause))
    | .ok () =>
        report "ScreenshotCommand" text [("path", .text path)]
        return none

/-- Gives the paths of screenshots. -/
def referenceScreenshot (id : Nat) (store : ScreenshotStore) : Command where
  id := id
  name := "ReferenceScreenshotCommand"
  priority := Priority.medium
  description := "Paste screenshot path(s) - single: 'screenshot 2', multiple: 'screenshot last 3'"
  examples := ["reference screenshot", "reference screenshot 2", "screenshot last 3",
    "green shot last 5"]
  category := screenshotCategory
  accepts text := .ok (ScreenshotRequest.of? text).isSome
  execute text := do
    match ScreenshotRequest.of? text with
    | none => return none
    | some request =>
        let found ← Act.conclude (store.list (← get).files)
        let tell := report "ReferenceScreenshotCommand" text
        if found.isEmpty then
          Act.note .noScreenshots
          tell [("error", .text "no_screenshots")]
          return none
        match request with
        | .newest count =>
            let chosen := found.take (count.cut found.length)
            if Number.lt chosen.length count then Act.note .fewScreenshots
            tell [("count", .nat chosen.length)]
            return some ("\n".intercalate (chosen.map (·.path)))
        | .single index =>
            match index.toNat?.bind fun
              | 0 => none
              | i + 1 => found[i]? with
            | none =>
                Act.note .screenshotOutOfRange
                tell [("index", .number index), ("error", .text "not_found")]
                return none
            | some file =>
                tell [("index", .number index), ("path", .text file.path)]
                return some file.path

end Command

end VoiceControl
