import VoiceControl.Overlay.GridPanel
import VoiceControl.Overlay.WindowPanel
import VoiceControl.Overlay.HelpPanel

/-!
# The overlay coordinator

The coordinator holds one overlay of each kind and sees to it that at most one is current. It owns
the table of target positions and the refined cell that the current overlay publishes; what an
overlay publishes while another one is current is dropped. Requests take effect on the logical side
at once, while the overlays' queues draw later, in steps that may come in any order (`step`);
`flush` is the order in which a session drains them.
-/

namespace VoiceControl

/-- The overlays of a session and which of them is up. -/
structure Coordinator where
  grid : Option GridPanel := none
  elements : Option ElementPanel := none
  windows : Option WindowPanel := none
  help : Option HelpPanel := none
  current : Option OverlayKind := none
  /-- The published positions of the targets numbered from 1. -/
  table : List (Point Number) := []
  /-- The published refined cell: nothing while none is published, and no cell for a grid that is
  not refined. -/
  refinedCell : Option (Option Nat) := none
  /-- The overlays with work to draw, in the order in which they got it. -/
  waking : List OverlayKind := []

namespace Coordinator

/-- What a request comes to. -/
structure Reply (α : Type) where
  value : α
  coordinator : Coordinator
  signals : List Signal := []

/-! ## The overlays by kind -/

/-- What can be seen of an overlay whatever its kind. -/
structure Glimpse where
  screen : Screen Number
  surface : Surface
  visible : Bool
  awake : Bool
  pending : Nat

private def glimpse {C R : Type} (p : Panel C R) : Glimpse :=
  ⟨p.screen, p.surface, p.visible, p.queue.awake, p.queue.size⟩

/-- The overlay of a kind, if there is one. -/
def overlay? (c : Coordinator) : OverlayKind → Option Glimpse
  | .grid => c.grid.map glimpse
  | .elements => c.elements.map glimpse
  | .windows => c.windows.map glimpse
  | .help => c.help.map glimpse

/-- Whether there is an overlay of a kind. -/
def has (c : Coordinator) (k : OverlayKind) : Bool := (c.overlay? k).isSome

/-- Adds an overlay to those with work, if it has any and is not among them. -/
def noteAwake (c : Coordinator) (k : OverlayKind) : Coordinator :=
  match c.overlay? k with
  | some g => if g.awake && !c.waking.contains k then { c with waking := c.waking ++ [k] } else c
  | none => c

/-- Puts the show request of an overlay on its queue; options may be refused. Nothing, when there
is no such overlay. -/
def present? (c : Coordinator) (k : OverlayKind) (options : Option Tree) :
    Option (Except Failure (Coordinator × List Signal)) :=
  match k with
  | .grid => c.grid.map fun p =>
      (p.present options).map fun (p, s) => ({ c with grid := some p }.noteAwake k, s)
  | .elements => c.elements.map fun p =>
      let (p, s) := p.present options
      .ok ({ c with elements := some p }.noteAwake k, s)
  | .windows => c.windows.map fun p =>
      let (p, s) := p.present options
      .ok ({ c with windows := some p }.noteAwake k, s)
  | .help => c.help.map fun p =>
      let (p, s) := p.present
      .ok ({ c with help := some p }.noteAwake k, s)

/-- Puts the hide request of an overlay on its queue. -/
def conceal (c : Coordinator) (k : OverlayKind) : Coordinator × List Signal :=
  match k with
  | .grid =>
      match c.grid with
      | some p => let (p, s) := p.hide; ({ c with grid := some p }.noteAwake k, s)
      | none => (c, [])
  | .elements =>
      match c.elements with
      | some p => let (p, s) := p.hide; ({ c with elements := some p }.noteAwake k, s)
      | none => (c, [])
  | .windows =>
      match c.windows with
      | some p => let (p, s) := p.hide; ({ c with windows := some p }.noteAwake k, s)
      | none => (c, [])
  | .help =>
      match c.help with
      | some p => let (p, s) := p.hide; ({ c with help := some p }.noteAwake k, s)
      | none => (c, [])

/-! ## The life of the current overlay -/

/-- Forgets what the current overlay published. -/
def reset (c : Coordinator) : Coordinator := { c with table := [], refinedCell := none }

/-- Hides an overlay if it is the current one; says whether it was. -/
def hide (c : Coordinator) (k : OverlayKind) : Reply Bool :=
  if c.has k && c.current == some k then
    let (c, s) := c.conceal k
    ⟨true, { c with current := none }.reset, s ++ [.event (.overlayHidden k)]⟩
  else ⟨false, c, []⟩

/-- Hides the current overlay, if there is one. -/
def hideCurrent (c : Coordinator) : Reply Bool :=
  match c.current with
  | some k => c.hide k
  | none => ⟨false, c, []⟩

/-- Hides the current overlay unless it is of a kind. -/
def makeRoom (c : Coordinator) (k : OverlayKind) : Reply Bool :=
  if c.current = some k then ⟨false, c, []⟩ else c.hideCurrent

/-- The entries by which show options are reported. -/
def reported (options : Option Tree) : Entries Tree :=
  match options with
  | some o => o.listed
  | none => []

/-- Shows an overlay and makes it the current one; says whether it did. The overlay that was
current before has to be hidden first. -/
def reveal (c : Coordinator) (k : OverlayKind) (options : Option Tree := none) : Reply Bool :=
  match c.overlay? k with
  | none => ⟨false, c, [.notice .overlayUnknown]⟩
  | some g =>
      if !g.screen.hasArea then ⟨false, c, [.notice .overlayDeclined]⟩
      else
        -- options are refused too late to keep the overlay that made room
        let room := c.makeRoom k
        match room.coordinator.present? k options with
        | some (.ok (c, s)) =>
            ⟨true, { c with current := some k }.reset,
              room.signals ++ s ++ [.event (.overlayShown k (reported options))]⟩
        | _ => ⟨false, room.coordinator, room.signals ++ [.notice .overlayShowFailed]⟩

/-- Hides an overlay that is current and shows it otherwise. -/
def toggle (c : Coordinator) (k : OverlayKind) (options : Option Tree := none) : Reply Bool :=
  if c.current = some k then c.hide k else c.reveal k options

/-! ## What only some overlays can do -/

/-- Refines the grid overlay, whether it is current or not. -/
def refineGrid (c : Coordinator) (cell : Number) : Reply Bool :=
  match c.grid with
  | none => ⟨false, c, []⟩
  | some p =>
      match p.refine? cell with
      | none => ⟨false, c, [.notice .refineOutside]⟩
      | some (p, s) =>
          let c := { c with grid := some p }.noteAwake .grid
          -- the cell is known at once, the positions only when the frame is drawn
          let c :=
            if c.current = some .grid then
              { c with refinedCell := some p.content.logical.state.parent? }
            else c
          ⟨true, c, s⟩

/-- Refines the current overlay into a cell; says whether it did. The published table describes
the grid before the refinement and is dropped. -/
def refine (c : Coordinator) (cell : Number) : Reply Bool :=
  if c.current = some .grid then
    let r := c.refineGrid cell
    if r.value then { r with coordinator := { r.coordinator with table := [] } } else r
  else ⟨false, c, []⟩

/-- Activates a numbered entry of the current overlay; only listed windows can be. -/
def activate (c : Coordinator) (sources : Sources) (n : Number) :
    Except Failure Bool × List Signal :=
  match c.current, c.windows with
  | some .windows, some p => p.activate sources.windows n
  | _, _ => (.ok false, [])

/-- Gives an utterance to the current overlay; only the help takes some. -/
def handleInput (c : Coordinator) (text : String) : Reply Bool :=
  if c.current = some .help && HelpPanel.isClosePhrase text then
    { c.hide .help with value := true }
  else ⟨false, c, []⟩

/-! ## Queries -/

/-- The position of a number on the overlay of a kind, from the overlay itself. -/
def ownPosition? (c : Coordinator) (k : OverlayKind) (n : Number) : Option (Point Number) :=
  match k with
  | .grid => c.grid.bind (·.position? n)
  | .elements => c.elements.bind (·.position? n)
  | .windows => c.windows.bind (·.position? n)
  | .help => none

/-- The published position of a number. -/
def published? (c : Coordinator) (n : Number) : Option (Point Number) :=
  match n.toNat? with
  | some (i + 1) => c.table[i]?
  | _ => none

/-- The position of a numbered target: the published one, or else the one that the current overlay
knows. -/
def position? (c : Coordinator) (n : Number) : Option (Point Number) :=
  (c.published? n).or (c.current.bind fun k => c.ownPosition? k n)

/-- The data that the current overlay published under a key. -/
def metadata? (c : Coordinator) (key : String) : Option (Option Nat) :=
  if key = "refinedCell" then c.refinedCell else none

/-! ## Drawing -/

/-- Takes what an overlay publishes, if it is the current one. -/
def accept (c : Coordinator) (k : OverlayKind) (p : Publication) : Coordinator :=
  if c.current = some k then
    match p with
    | .positions table => { c with table }
    | .refinedCell cell => { c with refinedCell := some cell }
  else c

/-- Lets the queue of an overlay advance by one step. -/
def step (sources : Sources) (k : OverlayKind) (c : Coordinator) : Coordinator × List Signal :=
  match k with
  | .grid =>
      match c.grid with
      | none => (c, [])
      | some p =>
          let g := p.advance GridPanel.drawing sources
          (g.publications.foldl (·.accept k ·) { c with grid := some g.panel }, g.signals)
  | .elements =>
      match c.elements with
      | none => (c, [])
      | some p =>
          let g := p.advance ElementPanel.drawing sources
          (g.publications.foldl (·.accept k ·) { c with elements := some g.panel }, g.signals)
  | .windows =>
      match c.windows with
      | none => (c, [])
      | some p =>
          let g := p.advance WindowPanel.drawing sources
          (g.publications.foldl (·.accept k ·) { c with windows := some g.panel }, g.signals)
  | .help =>
      match c.help with
      | none => (c, [])
      | some p =>
          let g := p.advance HelpPanel.drawing sources
          (g.publications.foldl (·.accept k ·) { c with help := some g.panel }, g.signals)

/-- Lets the queue of an overlay advance by a number of steps. -/
def steps (sources : Sources) (k : OverlayKind) : Nat → Coordinator → Coordinator × List Signal
  | 0, c => (c, [])
  | n + 1, c =>
      let (c, s) := c.step sources k
      let (c, t) := c.steps sources k n
      (c, s ++ t)

/-- A number of steps in which an overlay carries out all its work and falls asleep: a task takes
a step to be taken and at most four stages. -/
def stepsLeft (c : Coordinator) (k : OverlayKind) : Nat :=
  5 * (((c.overlay? k).elim 0 (·.pending)) + 1) + 1

/-- Carries out all the work of an overlay. -/
def settle (sources : Sources) (k : OverlayKind) (c : Coordinator) : Coordinator × List Signal :=
  let (c, s) := c.steps sources k (c.stepsLeft k)
  ({ c with waking := c.waking.erase k }, s)

/-- Carries out all the work of some overlays, one after the other. -/
def settleAll (sources : Sources) : List OverlayKind → Coordinator → Coordinator × List Signal
  | [], c => (c, [])
  | k :: ks, c =>
      let (c, s) := c.settle sources k
      let (c, t) := c.settleAll sources ks
      (c, s ++ t)

/-- Carries out all work: the overlay that got work first is served first. -/
def flush (sources : Sources) (c : Coordinator) : Coordinator × List Signal :=
  c.settleAll sources c.waking

/-- Waits for the overlay of a kind: those that got work before it are served too. -/
def idle (sources : Sources) (k : OverlayKind) (c : Coordinator) : Coordinator × List Signal :=
  if c.waking.contains k then
    c.settleAll sources (c.waking.takeWhile (· != k) ++ [k])
  else (c, [])

/-! ## Registering and taking down -/

/-- An overlay on its way into a coordinator. -/
inductive NewOverlay where
  | grid (p : GridPanel)
  | elements (p : ElementPanel)
  | windows (p : WindowPanel)
  | help (p : HelpPanel)

/-- The kind of a new overlay. -/
def NewOverlay.kind : NewOverlay → OverlayKind
  | .grid _ => .grid
  | .elements _ => .elements
  | .windows _ => .windows
  | .help _ => .help

/-- Adds an overlay. One of the same kind that was there is out of service from then on, and its
pending work is lost. -/
def register (c : Coordinator) (o : NewOverlay) : Coordinator × List Signal :=
  let signals : List Signal := if c.has o.kind then [.notice .overlayReplaced] else []
  let c := { c with waking := c.waking.erase o.kind }
  match o with
  | .grid p => ({ c with grid := some p }, signals)
  | .elements p => ({ c with elements := some p }, signals)
  | .windows p => ({ c with windows := some p }, signals)
  | .help p => ({ c with help := some p }, signals)

/-- Takes one overlay out of service. -/
def disposeOf (c : Coordinator) : OverlayKind → Coordinator
  | .grid => { c with grid := c.grid.map (·.dispose) }
  | .elements => { c with elements := c.elements.map (·.dispose) }
  | .windows => { c with windows := c.windows.map (·.dispose) }
  | .help => { c with help := c.help.map (·.dispose) }

/-- Takes all overlays out of service. -/
def dispose (c : Coordinator) : Coordinator :=
  OverlayKind.all.foldl disposeOf { c with current := none }.reset

/-! ## Overlays spoken to directly -/

/-- Whether the overlay of a kind would let itself be shown. -/
def wouldShow (c : Coordinator) (k : OverlayKind) : Bool :=
  (c.overlay? k).any (·.screen.hasArea)

/-- Lets the overlay of a kind act on a numbered entry itself. -/
def activateOn (c : Coordinator) (sources : Sources) (k : OverlayKind) (n : Number) :
    Except Failure Bool × List Signal :=
  match k, c.windows with
  | .windows, some p => p.activate sources.windows n
  | _, _ => (.ok false, [])

/-- Gives a text to the overlay of a kind, current or not. -/
def handleInputOn (c : Coordinator) (k : OverlayKind) (text : String) : Reply Bool :=
  if k = .help && c.has .help && HelpPanel.isClosePhrase text then
    { c.hide .help with value := true }
  else ⟨false, c, []⟩

end Coordinator

end VoiceControl
