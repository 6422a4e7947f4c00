import VoiceControl.Proofs.Session.GridCommands
import VoiceControl.Proofs.Session.UsualSettings

/-!
# Utterances about the grid in a session

Under the usual settings nothing in the way from speech to commands changes an utterance about the
grid, so a session does what the command of the utterance does and nothing else.
-/

namespace VoiceControl

open VoiceControl.Text VoiceControl.Command

/-- None of the utterances has anything that the usual settings look for. -/
theorem GridWord.isUsual_saying (w : GridWord) : w.saying.isUsual = true := by
  cases w <;> rfl

/-! ## Sessions -/

namespace Session

variable {s : Session} {o : BuiltinOptions}

/-- An utterance about the grid does what it means. -/
theorem run_processText (h : s.Usual o) (willing : s.workspace.Willing) {screen : Screen Number}
    {state : Grid.State Number} {size : Nat} (hsize : o.gridSize = (size : Number))
    (stands : s.workspace.overlays.Addresses screen state) (v : GridWord) :
    ∃ w, ((processText v.text).run s).2 = { s with workspace := w } ∧
      s.workspace.Became (v.actions state) (v.request size s.workspace.overlays) w := by
  have found : s.registry.findMatching v.text = (some (v.command o), []) := by
    rw [h.registry, GridWord.findMatching_builtins h.symbols v]
  refine h.run_saying v.isUsual_saying fun w became => ?_
  have works := gives_process found hsize (became.willing willing) (became.overlays ▸ stands)
  rwa [became.overlays] at works

end Session

/-! ## Turns -/

/-- Lets the queue of an overlay advance by one step. -/
def Workspace.draw (w : Workspace) (k : OverlayKind) : Workspace :=
  let (c, signals) := w.overlays.step w.sources k
  { w with overlays := c }.hear signals

/-- A turn of a session: an utterance, a step of the queue of an overlay, or the drawing of all
that is waiting. Which draws fail is part of the surfaces of a session. -/
inductive Turn where
  | say (w : GridWord)
  | draw (k : OverlayKind)
  | drain

/-- The utterances of some turns. -/
def Turn.utterances (ts : List Turn) : List GridWord :=
  ts.filterMap fun
    | .say w => some w
    | .draw _ | .drain => none

/-- The actions that utterances mean, one after the other. -/
def GridWord.interpret (screen : Screen Number) (size : Nat) :
    Grid.State Number → List GridWord → List Action
  | _, [] => []
  | s, w :: ws => w.actions s ++ interpret screen size (w.next screen size s) ws

namespace Session

/-- A session after a turn. -/
def turn (s : Session) : Turn → Session
  | .say w => ((processText w.text).run s).2
  | .draw k => { s with workspace := s.workspace.draw k }
  | .drain => (flush.run s).2

/-- A session after turns. -/
def turns (s : Session) (ts : List Turn) : Session := ts.foldl turn s

/-- A session under the usual settings stands for a grid state. -/
structure Stands (s : Session) (o : BuiltinOptions) (screen : Screen Number)
    (state : Grid.State Number) : Prop where
  usual : s.Usual o
  willing : s.workspace.Willing
  overlays : s.workspace.overlays.Addresses screen state

variable {s : Session} {o : BuiltinOptions} {screen : Screen Number} {state : Grid.State Number}

/-- Drawing keeps the grid state and does nothing on the desktop. -/
theorem Stands.of_drawn (h : s.Stands o screen state) {c : Coordinator}
    (drawn : c.Addresses screen state) (signals : List Signal) :
    { s with workspace := { s.workspace with overlays := c }.hear signals }.Stands o screen
      state :=
  ⟨h.usual.of_workspace _, ⟨h.willing.granted, h.willing.reached⟩, drawn⟩

/-- A turn keeps a session on the grid state that its utterance leads to, and does the actions that
the utterance means. -/
theorem Stands.turn (h : s.Stands o screen state) (area : screen.hasArea = true) {size : Nat}
    (hsize : o.gridSize = (size : Number)) (least : 2 ≤ size) (most : size ≤ 30) (t : Turn) :
    match t with
    | .say w =>
        (s.turn t).Stands o screen (w.next screen size state) ∧
          (s.turn t).workspace.desktop.actions =
            s.workspace.desktop.actions ++ w.actions state
    | .draw _ | .drain =>
        (s.turn t).Stands o screen state ∧
          (s.turn t).workspace.desktop.actions = s.workspace.desktop.actions := by
  cases t with
  | say w =>
      obtain ⟨ws, ran, became⟩ := run_processText h.usual h.willing hsize h.overlays w
      dsimp only [Session.turn]
      rw [ran]
      refine ⟨⟨h.usual.of_workspace _, became.willing h.willing, ?_⟩, became.actions⟩
      show ws.overlays.Addresses screen _
      rw [became.overlays]
      exact h.overlays.request area least most w
  | draw k => exact ⟨h.of_drawn (h.overlays.step _ k) _, rfl⟩
  | drain => exact ⟨h.of_drawn (h.overlays.flush _) _, rfl⟩

/-- After any turns the actions are those that the utterances among them mean. -/
theorem Stands.actions_turns (area : screen.hasArea = true) {size : Nat}
    (hsize : o.gridSize = (size : Number)) (least : 2 ≤ size) (most : size ≤ 30) (ts : List Turn)
    (h : s.Stands o screen state) :
    (s.turns ts).workspace.desktop.actions =
      s.workspace.desktop.actions ++
        GridWord.interpret screen size state (Turn.utterances ts) := by
  -- what is kept from turn to turn is the grid state that the session stands for
  induction ts generalizing s state with
  | nil => exact (List.append_nil _).symm
  | cons t ts ih =>
      have step := h.turn area hsize least most t
      show ((s.turn t).turns ts).workspace.desktop.actions = _
      cases t with
      | say w =>
          obtain ⟨next, actions⟩ := step
          rw [ih next, actions, List.append_assoc]
          rfl
      | draw k =>
          obtain ⟨same, actions⟩ := step
          rw [ih same, actions]
          rfl
      | drain =>
          obtain ⟨same, actions⟩ := step
          rw [ih same, actions]
          rfl

end Session

namespace SessionSetup

variable {u : SessionSetup} {width height size : Nat} {grid : GridSettings}
  {overlays : OverlaySettings}

/-- What the overlays of a session are made with. -/
def outfit (u : SessionSetup) : Outfit where
  screen _ := u.screen
  surface := u.surfaces
  gridSize := (u.settings.grid.defaultSize : Nat)
  mostElements := (u.settings.overlays.maxElements : Nat)
  mostWindows := (u.settings.overlays.maxWindows : Nat)

theorem coordinator_outfit (u : SessionSetup) : u.outfit.coordinator = u.overlays := rfl

/-- A new session has no grid up. -/
theorem addresses_overlays (u : SessionSetup) :
    u.overlays.Addresses u.screen .unshown :=
  (Coordinator.agrees_coordinator u.outfit).addresses (.inl rfl) rfl ⟨rfl, rfl⟩

theorem stands_start (usual : u.settings = { screen := ⟨width, height⟩, grid := ⟨size⟩ })
    (granted : u.refuses = fun _ _ => none) :
    u.start.Stands u.builtinOptions u.screen .unshown := by
  exact ⟨usual_start usual, ⟨granted, rfl⟩, u.addresses_overlays⟩

theorem hasArea_screen (usual : u.settings = { screen := ⟨width, height⟩, grid, overlays })
    (wide : 0 < width) (high : 0 < height) : u.screen.hasArea = true := by
  rw [screen, usual]
  show (Number.lt 0 (width : Number) && Number.lt 0 (height : Number)) = true
  rw [Number.zero_lt_natCast wide, Number.zero_lt_natCast high]
  rfl

/-- Whatever is drawn in between, and whichever draws fail, a session under the usual settings does
exactly the actions that the utterances mean for the grid alone. In particular they depend neither
on what is drawn when nor on the surfaces that it is drawn on. -/
theorem actions_of_utterances
    (usual : u.settings = { screen := ⟨width, height⟩, grid := ⟨size⟩ })
    (granted : u.refuses = fun _ _ => none) (wide : 0 < width) (high : 0 < height)
    (least : 2 ≤ size) (most : size ≤ 30) (ts : List Turn) :
    (u.start.turns ts).workspace.desktop.actions =
      GridWord.interpret u.screen size .unshown (Turn.utterances ts) ∧
    ∀ surfaces ts', Turn.utterances ts' = Turn.utterances ts →
      ({ u with surfaces }.start.turns ts').workspace.desktop.actions =
        (u.start.turns ts).workspace.desktop.actions := by
  -- the surfaces have no part in what utterances mean
  have all (v : SessionSetup) (same : v.settings = u.settings) (free : v.refuses = u.refuses)
      (ts : List Turn) : (v.start.turns ts).workspace.desktop.actions =
        GridWord.interpret v.screen size .unshown (Turn.utterances ts) := by
    have usual' := same.trans usual
    have hsize : v.builtinOptions.gridSize = (size : Number) := by
      rw [builtinOptions, usual']
    have stands := stands_start usual' (free.trans granted)
    exact (stands.actions_turns (hasArea_screen usual' wide high) hsize least most ts).trans
      (List.nil_append _)
  refine ⟨all u rfl rfl ts, fun surfaces ts' equal => ?_⟩
  rw [all u rfl rfl ts, all { u with surfaces } rfl rfl ts', equal]
  rfl

/-- In a screen of 300 by 300 pixels, the middle cell of the middle cell is the middle of the
screen. The click comes before the refined grid is drawn. -/
theorem actions_of_refined_click :
    let u : SessionSetup := {
      settings := { screen := ⟨300, 300⟩, grid := ⟨3⟩ }, platform := "linux"
      files := .empty "/work", environment := [], now := ⟨2024, 6, 7, 8, 9, 10⟩ }
    let five : Numeral := ⟨['5'], by decide, List.all_eq_true.1 rfl⟩
    u.refuses = (fun _ _ => none) ∧
    (u.start.turns [.say .grid, .drain, .say (.refine five), .draw .grid,
      .say (.click five)]).workspace.desktop.actions = [.movePointer ⟨150, 150⟩, .click .left 1] :=
  ⟨rfl, (actions_of_utterances rfl rfl (by decide) (by decide) (by decide) (by decide) _).1.trans
    (by decide +kernel)⟩

end SessionSetup

end VoiceControl
