import VoiceControl.Proofs.Overlay.Fulfilment
import VoiceControl.Proofs.Session.GridTurns
import VoiceControl.Proofs.Session.ListWords

/-!
# Overlays that were asked for

An overlay is asked for by an utterance and drawn later, in steps among which other overlays may be
drawn. Once it is drawn without a failing draw, it shows the answer to the request, whatever came
before in the session.

* `Session.DrawnBy`: the turns in which an overlay is drawn.
* `Session.Usual.shows_of_drawnBy`: what they lead to.
-/

namespace VoiceControl

open VoiceControl.Command

namespace Command

variable {id : Nat} {name : String} {k : OverlayKind} {phrases : List String}
  {description : String} {options : Option Tree}

/-- A command that shows an overlay asks for it and says so. -/
theorem on_showOverlay {w : Workspace} (reached : w.reach.overlays = true) (text : String) :
    (w.ask (·.reveal k options)).2.Remarked
      (((showOverlay id name k phrases description options).execute text).on w).2 := by
  unfold showOverlay
  dsimp only
  rw [Act.on_bind, Act.on_ask reached]
  dsimp only
  rw [Act.on_bind, Act.on_report]
  exact Workspace.remarked_published _ _ _

end Command

namespace Session

/-- A turn that is no utterance draws and does nothing else. -/
theorem drew_turn (s : Session) {t : Turn} (silent : ∀ v, t ≠ .say v) :
    ∃ overlays journal,
      s.turn t = { s with workspace := { s.workspace with overlays, journal } } ∧
        Coordinator.Drew s.workspace.sources s.workspace.overlays overlays := by
  cases t with
  | say v => exact absurd rfl (silent v)
  | draw k => exact ⟨_, _, rfl, Coordinator.drew_step _ k _⟩
  | drain => exact ⟨_, _, rfl, Coordinator.drew_flush _ _⟩

theorem drew_turns (s : Session) {ts : List Turn} (quiet : Turn.utterances ts = []) :
    ∃ overlays journal,
      s.turns ts = { s with workspace := { s.workspace with overlays, journal } } ∧
        Coordinator.Drew s.workspace.sources s.workspace.overlays overlays := by
  induction ts generalizing s with
  | nil => exact ⟨_, s.workspace.journal, rfl, .still⟩
  | cons t ts ih =>
      obtain ⟨silent, quiet⟩ : (∀ v, t ≠ .say v) ∧ Turn.utterances ts = [] := by
        cases t <;> simp_all [Turn.utterances]
      obtain ⟨now, j, turned, drew⟩ := s.drew_turn silent
      obtain ⟨overlays, journal, went, more⟩ := ih (s.turn t) quiet
      rw [turned] at went more
      refine ⟨overlays, journal, ?_, drew.trans more⟩
      rw [turns, List.foldl_cons, turned]
      exact went

/-- Turns in which all that an overlay has to draw is drawn: without an utterance, and no attempt
to draw the overlay fails. -/
structure DrawnBy (s : Session) (k : OverlayKind) (ts : List Turn) : Prop where
  quiet : Turn.utterances ts = []
  worked : s.workspace.overlays.DrawsWorked k (s.turns ts).workspace.overlays
  drained : (s.turns ts).workspace.overlays.work k = []

variable {s : Session} {o : BuiltinOptions} {x : Saying} {k : OverlayKind} {id : Nat}
  {name description : String} {phrases : List String} {options : Option Tree}

/-- An utterance for a command that shows an overlay asks for it, and the rest of a session stays
as it was. -/
theorem Usual.next_show (h : s.Usual o) (reached : s.workspace.reach.overlays = true)
    (usual : x.isUsual = true)
    (found : s.registry.findMatching x.text =
      (some (showOverlay id name k phrases description options), [])) :
    ∃ journal, s.next (.say x.text) =
      { s with workspace := { s.workspace with
          overlays := (s.workspace.overlays.reveal k options).coordinator, journal } } := by
  have still {w : Workspace} (before : s.workspace.Remarked w) : w.reach.overlays = true := by
    rw [before.reach, reached]
  obtain ⟨w₁, w₂, before, after, said⟩ := h.next_command usual found
    (fun w before => Act.on_hasOverlays (still before)) (silent_showOverlay _ _ _ _ _ _ x.text)
  obtain ⟨j, rfl, -⟩ :=
    Workspace.lasting_remarked.trans (on_showOverlay (still before) x.text) after
  obtain ⟨j₁, rfl, -⟩ := before
  exact ⟨j, said⟩

/-- A session has come to another one in which the answer to a request is what is up. Otherwise no
more than its journal has changed. -/
structure Shows (s : Session) (r : Course k.drawing s.workspace.sources) (t : Session) : Prop where
  frame : ∃ overlays journal, t = { s with workspace := { s.workspace with overlays, journal } }
  answers : t.workspace.overlays.Answers r

section Shows

variable {t : Session} {r : Course k.drawing s.workspace.sources}

theorem Shows.usual (h : s.Shows r t) (usual : s.Usual o) : t.Usual o := by
  obtain ⟨overlays, journal, rfl⟩ := h.frame
  exact usual.of_workspace _

theorem Shows.reach (h : s.Shows r t) : t.workspace.reach = s.workspace.reach := by
  obtain ⟨overlays, journal, rfl⟩ := h.frame
  rfl

theorem Shows.sources (h : s.Shows r t) : t.workspace.sources = s.workspace.sources := by
  obtain ⟨overlays, journal, rfl⟩ := h.frame
  rfl

theorem Shows.desktop (h : s.Shows r t) : t.workspace.desktop = s.workspace.desktop := by
  obtain ⟨overlays, journal, rfl⟩ := h.frame
  rfl

/-- When an overlay was asked for and drawn, the answer is what is up. -/
theorem Usual.shows_of_drawnBy (h : s.Usual o) (reached : s.workspace.reach.overlays = true)
    (usual : x.isUsual = true)
    (found : s.registry.findMatching x.text =
      (some (showOverlay id name k phrases description none), []))
    (full : s.workspace.overlays.Full) {p : Panel k.Content k.Drawn}
    (there : s.workspace.overlays.panel? k = some p) (open_ : p.queue.stopped = false)
    (area : p.screen.hasArea = true) (screen : p.screen = r.screen)
    (asks : k.present p none = .ok (p.request (.render r.ask)))
    {ts : List Turn} (drawn : (s.next (.say x.text)).DrawnBy k ts) :
    s.Shows r ((s.next (.say x.text)).turns ts) := by
  obtain ⟨j, asked⟩ := h.next_show reached usual found
  rw [asked] at drawn ⊢
  obtain ⟨overlays, journal, turned, drew⟩ := drew_turns _ drawn.quiet
  have worked := drawn.worked
  have drained := drawn.drained
  rw [turned] at worked drained ⊢
  have pursues := Coordinator.pursues_reveal full there open_ area screen asks
  exact ⟨⟨overlays, journal, rfl⟩, (pursues.drew drew worked).answers drained⟩

end Shows

end Session

namespace SessionSetup

/-- Whatever happens to a session, it reaches the overlays that it was made with. -/
theorem furnished_after (u : SessionSetup) (hs : List Happening) :
    (u.start.after hs).workspace.reach.overlays = true ∧
      (u.start.after hs).workspace.overlays.Furnished u.outfit := by
  obtain ⟨went, reach⟩ := Session.ranging_after u hs
  refine ⟨?_, Coordinator.furnished_of_went ?_⟩
  · rw [reach]
    rfl
  · rw [coordinator_outfit]
    exact went

/-- When an overlay was asked for and drawn, the answer to the request is what is up, whatever came
before in a session under the usual settings. -/
theorem shows_after {u : SessionSetup} {screen : ScreenSettings} {grid : GridSettings}
    {overlays : OverlaySettings} (usual : u.settings = { screen, grid, overlays })
    (hs : List Happening) {k : OverlayKind}
    {r : Course k.drawing (u.start.after hs).workspace.sources} {p : Panel k.Content k.Drawn}
    (made : u.outfit.coordinator.panel? k = some p) (area : p.screen.hasArea = true)
    (covers : p.screen = r.screen)
    (asks : ∀ q : Panel k.Content k.Drawn, k.most q.content = k.most p.content →
      k.present q none = .ok (q.request (.render r.ask)))
    {x : Saying} (plain : x.isUsual = true) {id : Nat} {name description : String}
    {phrases : List String}
    (found : ((Registry.mk []).registerAll
      (Command.builtins u.builtinOptions)).findMatching x.text =
        (some (showOverlay id name k phrases description none), []))
    {ts : List Turn} (drawn : ((u.start.after hs).next (.say x.text)).DrawnBy k ts) :
    (u.start.after hs).Shows r (((u.start.after hs).next (.say x.text)).turns ts) := by
  have stays := usual_after usual hs
  obtain ⟨reached, furnished⟩ := u.furnished_after hs
  obtain ⟨q, hq, open_, same, most⟩ := furnished.exists_panel made
  rw [← stays.registry] at found
  rw [← same] at area covers
  exact stays.shows_of_drawnBy reached plain found furnished.agrees.full hq open_ area covers
    (asks q most) drawn

/-- An overlay on which no draw fails is drawn by draining what it was asked for at the start. -/
theorem drawnBy_drain {u : SessionSetup} {screen : ScreenSettings} {grid : GridSettings}
    {overlays : OverlaySettings} (usual : u.settings = { screen, grid, overlays })
    {k : OverlayKind} (never : ∀ n, (u.surfaces k).failsDraw n = false) {x : Saying}
    (plain : x.isUsual = true) {id : Nat} {name description : String} {phrases : List String}
    (found : u.start.registry.findMatching x.text =
      (some (showOverlay id name k phrases description none), [])) :
    ((u.start.after []).next (.say x.text)).DrawnBy k [.drain] := by
  have furnished := (u.furnished_after [.say x.text]).2
  rw [Session.after_cons, Session.after_nil] at furnished
  obtain ⟨j, asked⟩ := (usual_start usual).next_show rfl plain found
  rw [Session.after_nil]
  refine ⟨rfl, furnished.drawsWorked _ never, ?_⟩
  rw [asked]
  exact Coordinator.flush_drains u.outfit [.reveal k none] _ k

end SessionSetup

end VoiceControl
