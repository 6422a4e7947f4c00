import VoiceControl.Config.Check
import VoiceControl.Overlay.Panel

/-!
# The grid overlay

The grid's requests act on a logical state at once, so lookups and refinements see every earlier
request; drawing follows later. Every accepted transition gets a ticket of its own. A frame
publishes its positions only if its ticket is still the newest, since otherwise a later transition
is on its way and its frame publishes instead.
-/

namespace VoiceControl

/-- A grid state with the ticket of the transition that led to it. -/
structure Ticketed where
  state : Grid.State Number
  ticket : Nat

/-- The content of the grid overlay. -/
structure GridContent where
  /-- The size shown when none is asked for. -/
  standard : Number
  /-- The state that requests see. -/
  logical : Ticketed := ⟨.unshown, 0⟩
  /-- The state that was drawn last. -/
  drawn : Grid.State Number := .unshown
  /-- The number of transitions so far. -/
  issued : Nat := 0

/-- The stages of drawing a grid. -/
inductive GridStage where
  | draw (target : Ticketed)
  | publish (target : Ticketed)

/-- The grid overlay. -/
abbrev GridPanel := Panel GridContent GridStage

namespace GridPanel

/-- The size that show options ask for. -/
def optionSize (options : Option Tree) : Verdict (Option Number) :=
  match options with
  | none | some .null => .valid none
  | some t =>
      Check.fields (Check.maybeField "size"
        (Check.number [Check.isInteger, Check.atLeast 2, Check.atMost 30])) [] t

/-- The grid that show options ask for. -/
def requested (p : GridPanel) (options : Option Tree) : Except Failure (Grid.State Number) :=
  match optionSize options with
  | .invalid issues =>
      .error (.overlay ("Invalid grid options: " ++ "; ".intercalate (issues.map (·.inLine)))
        OverlayKind.grid.label none)
  | .valid size => Grid.show? p.screen (size.getD p.content.standard)

/-- Makes a state the logical one under a new ticket. -/
def accept (p : GridPanel) (state : Grid.State Number) : GridPanel :=
  let ticket := p.content.issued + 1
  { p with content := { p.content with logical := ⟨state, ticket⟩, issued := ticket } }

/-- Accepts a shown state and requests its frame. -/
def transition (p : GridPanel) (state : Grid.State Number) : GridPanel × List Signal :=
  let p := p.accept state
  p.request (.render (.draw p.content.logical))

/-- Shows the grid that options ask for. -/
def present (p : GridPanel) (options : Option Tree) : Except Failure (GridPanel × List Signal) :=
  (p.requested options).map p.transition

/-- Hides the grid. -/
def hide (p : GridPanel) : GridPanel × List Signal := (p.accept .unshown).request .wipe

/-- The grid after a refinement into a cell, or nothing when the cell is not one of the grid's. -/
def refine? (p : GridPanel) (cell : Number) : Option (GridPanel × List Signal) :=
  (p.content.logical.state.refine? cell).map p.transition

/-- The pixel of a numbered cell. -/
def position? (p : GridPanel) (n : Number) : Option (Point Number) :=
  (p.content.logical.state.cellCenter? n).map Point.round

/-- The frame of a grid state. -/
def frame (state : Grid.State Number) : Frame :=
  match state.shape? with
  | some (bounds, size) => .grid bounds size state.parent? state.cells
  | none => .grid ⟨0, 0, 0, 0⟩ 0 none []

/-- The pixels of all cells in the order of their numbers. -/
def targets (state : Grid.State Number) : List (Point Number) :=
  state.cells.map fun c => c.center.round

/-- How a grid is drawn. -/
def drawing : Drawing GridContent GridStage where
  render _ p stage :=
    match stage with
    | .draw target =>
        Panel.drawFrame { p with content := { p.content with drawn := target.state } }
          (frame target.state) (.render (.publish target))
    | .publish target =>
        let publications : List Publication :=
          -- equal states of different transitions are told apart by their tickets
          if target.ticket = p.content.logical.ticket then
            [.positions (targets target.state), .refinedCell target.state.parent?]
          else []
        (.done, ⟨{ p with visible := true }, publications, []⟩)
  reset c := { c with drawn := .unshown }

end GridPanel

end VoiceControl
