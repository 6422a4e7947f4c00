import VoiceControl.Overlay.ElementPanel

/-!
# The window overlay

The open windows as a numbered list, one entry below the other. An entry can be activated, which
focuses its window.
-/

namespace VoiceControl

/-- The content of the window overlay. -/
structure WindowContent where
  /-- The most windows shown when nothing else is asked for. -/
  most : Number
  items : List ListedWindow := []

/-- The stages of drawing windows. -/
inductive WindowStage where
  | list (most : Number)
  | draw (items : List ListedWindow)
  | publish

/-- The window overlay. -/
abbrev WindowPanel := Panel WindowContent WindowStage

namespace WindowPanel

/-- The top of the list on the screen, in pixels. -/
def listTop : Nat := 100

/-- The height of an entry, in pixels. -/
def entryHeight : Nat := 40

/-- The middle of the entry with index `i`, counted from 0. -/
def entryAt (screen : Screen Number) (i : Nat) : Point Number :=
  ⟨(screen.width / 2).floor, (listTop + i * entryHeight + entryHeight / 2 : Nat)⟩

/-- Windows with their numbers and entries. -/
def listed (screen : Screen Number) (ws : List WindowInfo) : List ListedWindow :=
  ws.zipIdx.map fun (w, i) => ⟨w, i + 1, entryAt screen i⟩

/-- Requests the windows that options ask for. -/
def present (p : WindowPanel) (options : Option Tree) : WindowPanel × List Signal :=
  p.request (.render (.list (requestedMost options "maxWindows" p.content.most)))

/-- Hides the windows. -/
def hide (p : WindowPanel) : WindowPanel × List Signal := p.request .wipe

/-- The window listed under a number. -/
def item? (p : WindowPanel) (n : Number) : Option ListedWindow :=
  match n.toNat? with
  | some (i + 1) => p.content.items[i]?
  | _ => none

/-- The place of a numbered entry. -/
def position? (p : WindowPanel) (n : Number) : Option (Point Number) :=
  (p.item? n).map (·.entry)

/-- Focuses the window listed under a number; says whether that worked. Without such a window or
without a source nothing is asked for. -/
def activate (p : WindowPanel) (source : Option WindowSource) (n : Number) :
    Except Failure Bool × List Signal :=
  match p.item? n, source with
  | some w, some s => (s.focus w.window.id, [.inquiry (.focus w.window.id)])
  | _, _ => (.ok false, [])

/-- How windows are drawn. -/
def drawing : Drawing WindowContent WindowStage where
  render sources p stage :=
    match stage with
    | .list most =>
        match sources.windows with
        | none => (.next (.render (.draw [])), ⟨p, [], []⟩)
        | some s =>
            match s.list most with
            | .ok ws =>
                (.next (.render (.draw (listed p.screen (ws.take (most.cut ws.length))))),
                  ⟨p, [], [.inquiry (.most most)]⟩)
            | .error _ => (.failed, ⟨p, [], [.inquiry (.most most)]⟩)
    | .draw items =>
        Panel.drawFrame { p with content := { p.content with items := items } }
          (.windows items) (.render .publish)
    | .publish =>
        (.done, ⟨{ p with visible := true },
          [.positions (p.content.items.map (·.entry))], []⟩)
  reset c := { c with items := [] }

end WindowPanel

end VoiceControl
