import VoiceControl.Overlay.Panel

/-!
# The element overlay

The clickable elements of the window in front, numbered. Where there is no source, detection
fails or nothing is found, the cells of a five by five grid over the screen take their place, so
there are always targets.
-/

namespace VoiceControl

/-- The content of the element overlay. -/
structure ElementContent where
  /-- The most elements shown when nothing else is asked for. -/
  most : Number
  items : List NumberedElement := []

/-- The stages of drawing elements. -/
inductive ElementStage where
  | detect (most : Number)
  | draw (items : List NumberedElement) (fallback : Bool)
  | publish

/-- The element overlay. -/
abbrev ElementPanel := Panel ElementContent ElementStage

/-- The most entries that show options ask for under a key: a positive integer, or else the
standard. -/
def requestedMost (options : Option Tree) (key : String) (standard : Number) : Number :=
  match options with
  | some (.mapping es) =>
      match Entries.get? key es with
      | some (.number n) => if n.isInteger && Number.lt 0 n then n else standard
      | _ => standard
  | _ => standard

namespace ElementPanel

/-- The side of the grid that stands in for elements. -/
def fallbackSize : Nat := 5

/-- Detected elements with their numbers. -/
def numbered (found : List UiElement) : List NumberedElement :=
  found.zipIdx.map fun (e, i) => ⟨i + 1, e.bounds, e.bounds.middle, e.name⟩

/-- The cells that stand in for elements. -/
def fallbackItems (screen : Screen Number) : List NumberedElement :=
  (Grid.whole screen fallbackSize).cells.map fun c => ⟨c.number, c.rect, c.center, none⟩

/-- Requests the elements that options ask for. -/
def present (p : ElementPanel) (options : Option Tree) : ElementPanel × List Signal :=
  p.request (.render (.detect (requestedMost options "maxElements" p.content.most)))

/-- Hides the elements. -/
def hide (p : ElementPanel) : ElementPanel × List Signal := p.request .wipe

/-- The element under a number. -/
def item? (p : ElementPanel) (n : Number) : Option NumberedElement :=
  match n.toNat? with
  | some (i + 1) => p.content.items[i]?
  | _ => none

/-- The pixel of a numbered element. -/
def position? (p : ElementPanel) (n : Number) : Option (Point Number) :=
  (p.item? n).map fun e => e.center.round

/-- Asks the source for elements; without one, or when it fails, there are none. -/
def detect (source : Option ElementSource) (most : Number) : List UiElement × List Signal :=
  match source with
  | none => ([], [])
  | some s =>
      match s.detect most with
      | .ok found => (found.take (most.cut found.length), [.inquiry (.most most)])
      | .error _ => ([], [.inquiry (.most most), .notice .detectionFailed])

/-- How elements are drawn. -/
def drawing : Drawing ElementContent ElementStage where
  render sources p stage :=
    match stage with
    | .detect most =>
        let (found, signals) := detect sources.elements most
        let items := if found.isEmpty then fallbackItems p.screen else numbered found
        (.next (.render (.draw items found.isEmpty)), ⟨p, [], signals⟩)
    | .draw items fallback =>
        Panel.drawFrame { p with content := { p.content with items := items } }
          (.elements items fallback) (.render .publish)
    | .publish =>
        (.done, ⟨{ p with visible := true },
          [.positions (p.content.items.map fun e => e.center.round)], []⟩)
  reset c := { c with items := [] }

end ElementPanel

end VoiceControl
