import VoiceControl.Overlay.Frame

/-!
# Frames as data

What grids, frames and their parts look like as data, for reports and listings.
-/

namespace VoiceControl

/-- A point as data. -/
def Point.tree (p : Point Number) : Tree := .mapping [("x", .number p.x), ("y", .number p.y)]

/-- A rectangle as data. -/
def Rect.tree (r : Rect Number) : Tree :=
  .mapping [("x", .number r.x), ("y", .number r.y), ("width", .number r.width),
    ("height", .number r.height)]

/-- A numbered cell as data. -/
def Grid.Cell.tree (c : Grid.Cell Number) : Tree :=
  .mapping [("number", .nat c.number), ("rect", c.rect.tree), ("center", c.center.tree)]

/-- A grid state as data. -/
def Grid.State.tree : Grid.State Number → Tree
  | .unshown => .mapping [("kind", .text "unshown")]
  | .full bounds size =>
      .mapping [("kind", .text "full"), ("bounds", bounds.tree), ("size", .nat size)]
  | .refined bounds parent =>
      .mapping [("kind", .text "refined"), ("bounds", bounds.tree),
        ("size", .nat Grid.refinedSize), ("parentCell", .nat parent)]

/-- A field that may be missing. -/
def Tree.maybe (key : String) : Option String → Entries Tree
  | some s => [(key, .text s)]
  | none => []

/-- A numbered element as data. -/
def NumberedElement.tree (e : NumberedElement) : Tree :=
  .mapping ([("number", .nat e.number), ("rect", e.rect.tree), ("center", e.center.tree)] ++
    Tree.maybe "name" e.name)

/-- A listed window as data. -/
def ListedWindow.tree (w : ListedWindow) : Tree :=
  .mapping ([("id", .text w.window.id), ("title", .text w.window.title)] ++
    Tree.maybe "app" w.window.app ++ [("number", .nat w.number), ("entry", w.entry.tree)])

/-- A help section as data. -/
def HelpSection.tree (s : HelpSection) : Tree :=
  .mapping [("title", .text s.title), ("entries", .list (s.entries.map fun e =>
    .mapping [("description", .text e.description), ("examples", .texts e.examples)]))]

/-- A frame as data. -/
def Frame.tree : Frame → Tree
  | .grid bounds size refined cells =>
      .mapping [("kind", .text "grid"), ("bounds", bounds.tree), ("size", .nat size),
        ("refinedCell", .orNull .nat refined), ("cells", .list (cells.map (·.tree)))]
  | .elements es fallback =>
      .mapping [("kind", .text "elements"), ("elements", .list (es.map (·.tree))),
        ("fallback", .bool fallback)]
  | .windows ws => .mapping [("kind", .text "windows"), ("windows", .list (ws.map (·.tree)))]
  | .help ss => .mapping [("kind", .text "help"), ("sections", .list (ss.map (·.tree)))]

/-- A frame as data where a grid's cells are only counted. -/
def Frame.summary : Frame → Tree
  | .grid bounds size refined cells =>
      .mapping [("bounds", bounds.tree), ("size", .nat size),
        ("refinedCell", .orNull .nat refined), ("cells", .nat cells.length)]
  | f => f.tree

end VoiceControl
