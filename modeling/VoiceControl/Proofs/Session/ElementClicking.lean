import VoiceControl.Proofs.Number.Natural
import VoiceControl.Proofs.Session.Showing

/-!
# Clicking a numbered element

The elements are asked for and drawn, and then a number is clicked. There are always targets: where
no element is detected, cells of a grid over the screen stand in. They are numbered in order, and
the number that is said is looked up in what the overlay published.

* `ElementSource.targets`: the targets that there are.
* `SessionSetup.click_on_element`: what is clicked.
-/

namespace VoiceControl

open VoiceControl.Command

/-! ## Targets -/

namespace ElementPanel

/-- The pixels of the first `m` elements that are detected or, where there are none, of the cells of
a five by five grid over the screen. -/
def targets (screen : Screen Number) (source : Option ElementSource) (m : Nat) :
    List (Point Number) :=
  match (source.map fun s => s.detect (m : Number) : Option (Except Failure (List UiElement))) with
  | some (.ok (e :: es)) => ((e :: es).take m).map (·.bounds.middle.round)
  | some (.ok []) | some (.error _) | none => (Grid.whole screen 5).cells.map (·.center.round)

/-- Lists of elements are shorter than the natural numbers that are exact. -/
def Short (source : Option ElementSource) (m : Nat) : Prop :=
  ∀ s, source = some s →
    ∀ found, s.detect (m : Number) = .ok found → found.length < Number.exactLimit

variable {screen : Screen Number} {source : Option ElementSource} {m : Nat}

theorem centers_fallbackItems (screen : Screen Number) :
    (fallbackItems screen).map (·.center.round) =
      (Grid.whole screen 5).cells.map (·.center.round) := by
  rw [fallbackItems, List.map_map]
  rfl

theorem centers_numbered (found : List UiElement) :
    (numbered found).map (·.center.round) = found.map (·.bounds.middle.round) := by
  rw [numbered, List.map_map]
  show found.zipIdx.map ((·.bounds.middle.round) ∘ Prod.fst) = _
  rw [← List.map_map, List.zipIdx_map_fst]

/-- What a request for elements leads to are the targets, whatever the source does. -/
theorem centers_answer (positive : 0 < m) (short : Short source m) :
    (answer screen source (m : Number)).map (·.center.round) = targets screen source m := by
  cases source with
  | none => exact centers_fallbackItems screen
  | some s =>
      unfold answer targets
      dsimp only [Option.map_some]
      cases detected : s.detect (m : Number) with
      | error f =>
          have nothing : (detect (some s) (m : Number)).1 = [] := by simp only [detect, detected]
          rw [nothing]
          exact centers_fallbackItems screen
      | ok found =>
          have first : (detect (some s) (m : Number)).1 = found.take m := by
            simp only [detect, detected]
            exact Number.take_cut_natCast (short s rfl found detected)
          obtain ⟨i, rfl⟩ := Nat.exists_eq_add_of_le' positive
          rw [first]
          cases found with
          | nil => exact centers_fallbackItems screen
          | cons e es => exact centers_numbered _

/-- There are always targets. -/
theorem length_targets (screen : Screen Number) (positive : 0 < m) (short : Short source m) :
    0 < (targets screen source m).length ∧
      (targets screen source m).length < Number.exactLimit := by
  have cells : ((Grid.whole screen 5).cells.map (·.center.round)).length = 25 := by
    rw [List.length_map]
    rfl
  unfold targets
  split
  · rename_i e es detected
    obtain ⟨s, there, answered⟩ := Option.map_eq_some_iff.1 detected
    have few := short s there _ answered
    rw [List.length_map, List.length_take]
    simp only [List.length_cons] at few ⊢
    omega
  all_goals
    rw [cells]
    decide

/-- While targets are what is up, a number has the position of the target in its place. -/
theorem position?_of_answers {c : Coordinator} {sources : Sources} (positive : 0 < m)
    (short : Short sources.elements m)
    (answers : Coordinator.Answers (k := .elements) c (course sources screen (m : Number)))
    (n : Nat) :
    c.table = targets screen sources.elements m ∧
      c.position? (n : Number) =
        match n with
        | i + 1 => (targets screen sources.elements m)[i]?
        | 0 => none := by
  obtain ⟨p, x, hp, content⟩ := answers.panel
  have table : c.table = targets screen sources.elements m :=
    answers.table.trans (centers_answer positive short)
  have own : OverlayKind.elements.targets p = targets screen sources.elements m := by
    show p.content.items.map (·.center.round) = _
    rw [content]
    exact centers_answer positive short
  have looked : c.position? (n : Number) = targetAt (targets screen sources.elements m) n := by
    rw [Coordinator.position?, Coordinator.published?_eq, table, answers.up, Option.bind_some,
      Coordinator.ownPosition?_eq, hp, Option.bind_some, ← OverlayKind.targetAt_targets, own,
      Option.or_self]
  exact ⟨table, looked.trans (Number.entry?_natCast (length_targets screen positive short).2 n)⟩

end ElementPanel

/-! ## Clicks -/

/-- A desktop takes some actions, whenever they are called for. -/
def Desktop.Takes (d : Desktop) (as : List Action) : Prop :=
  ∀ a ∈ as, ∀ calls, d.refuses calls (.act a) = none

/-- An action that is taken is done. -/
theorem Act.on_act_of_takes {w : Workspace} {a : Action} {more : List Action}
    (takes : w.desktop.Takes (a :: more)) :
    ∃ w', (act a).on w = (.ok (), w') ∧ w'.desktop.actions = w.desktop.actions ++ [a] ∧
      w'.desktop.Takes more := by
  rcases ran : (act a).on w with ⟨r, w'⟩
  obtain ⟨refuses, ⟨f, refused, -⟩ | ⟨-, rfl, actions⟩⟩ := Act.act_cases ran
  · rw [takes a List.mem_cons_self] at refused
    cases refused
  · refine ⟨w', rfl, actions, fun b mem calls => ?_⟩
    rw [refuses]
    exact takes b (List.mem_cons_of_mem _ mem) calls

namespace Command

variable {lx : Lexicon} {text : String} {n : Number} {w : Workspace}

/-- Clicking a number moves the pointer to its position and clicks once, if the desktop takes that.
Without a position nothing is called for. -/
theorem on_clickNumber (id : Nat) (reached : w.reach.overlays = true)
    (number : lx.numbers (Utterance.plain text.toList) = [n]) :
    let w' := (((clickNumber id lx).execute text).on w).2
    match w.overlays.position? n with
    | some p =>
        w.desktop.Takes [.movePointer p, .click .left 1] →
          w'.desktop.actions = w.desktop.actions ++ [.movePointer p, .click .left 1]
    | none => w'.desktop = w.desktop := by
  unfold clickNumber goToNumber positionOf
  dsimp only
  rw [number, List.head?_cons]
  dsimp only
  rw [Act.on_bind, Act.on_look reached]
  dsimp only
  cases w.overlays.position? n with
  | none =>
      dsimp only
      rw [Act.on_bind, Act.on_report]
      exact (w.remarked_published _ _).desktop
  | some p =>
      intro takes
      obtain ⟨w₁, moved, first, takes₁⟩ := Act.on_act_of_takes takes
      obtain ⟨w₂, clicked, second, -⟩ := Act.on_act_of_takes takes₁
      dsimp only
      rw [Act.on_bind, moved]
      dsimp only
      rw [Act.on_bind, clicked]
      dsimp only
      rw [Act.on_bind, Act.on_report]
      refine (congrArg Desktop.actions (w₂.remarked_published _ _).desktop).trans ?_
      rw [second, first, List.append_assoc]
      rfl

end Command

/-! ## Sessions -/

/-- A session clicks at the position of a number, if there is one, for an utterance that is for a
click on the number. -/
theorem Session.Usual.next_click {s : Session} {o : BuiltinOptions} (h : s.Usual o)
    (reached : s.workspace.reach.overlays = true) {x : Saying} (usual : x.isUsual = true)
    {id : Nat} {lx : Lexicon}
    (found : s.registry.findMatching x.text = (some (clickNumber id lx), [])) {n : Number}
    (number : lx.numbers (Utterance.plain x.text.toList) = [n]) :
    let w := (s.next (.say x.text)).workspace
    match s.workspace.overlays.position? n with
    | some p =>
        s.workspace.desktop.Takes [.movePointer p, .click .left 1] →
          w.desktop.actions = s.workspace.desktop.actions ++ [.movePointer p, .click .left 1]
    | none => w.desktop = s.workspace.desktop := by
  have still {w : Workspace} (before : s.workspace.Remarked w) : w.reach.overlays = true := by
    rw [before.reach, reached]
  obtain ⟨w₁, w₂, before, after, said⟩ := h.next_command usual found
    (fun w before => Act.on_hasOverlays (still before)) (silent_clickNumber id lx x.text)
  have clicked := on_clickNumber id (still before) number
  dsimp only at clicked ⊢
  rw [before.overlays, before.desktop, ← after.desktop] at clicked
  rw [said]
  exact clicked

/-- While targets are what is up, clicking a number clicks at the target in its place, if the
desktop takes that, and where no target is in its place nothing is called for. -/
theorem Session.Usual.next_click_of_answers {s : Session} {o : BuiltinOptions} (h : s.Usual o)
    (reached : s.workspace.reach.overlays = true) {screen : Screen Number} {m : Nat}
    (positive : 0 < m) {sources : Sources} (short : ElementPanel.Short sources.elements m)
    (answers : Coordinator.Answers (k := .elements) s.workspace.overlays
      (ElementPanel.course sources screen (m : Number))) (k : Numeral) :
    let targets := ElementPanel.targets screen sources.elements m
    let w := (s.next (.say (GridWord.click k).text)).workspace
    (∀ i p, k.value = i + 1 → targets[i]? = some p →
      s.workspace.desktop.Takes [.movePointer p, .click .left 1] →
        w.desktop.actions = s.workspace.desktop.actions ++ [.movePointer p, .click .left 1]) ∧
    (k.value = 0 ∨ targets.length < k.value → w.desktop = s.workspace.desktop) := by
  have found : s.registry.findMatching (GridWord.click k).saying.text =
      (some (clickNumber 14 o.lexicon), []) := by
    rw [h.registry]
    exact GridWord.findMatching_builtins h.symbols (GridWord.click k)
  have number : o.lexicon.numbers (Utterance.plain (GridWord.click k).saying.text.toList) =
      [(k.value : Number)] := by
    rw [Saying.toList_text, Saying.plain_spoken]
    exact GridWord.numbers_click o.lexicon k
  have clicked := h.next_click reached (GridWord.click k).isUsual_saying found number
  rw [GridWord.text_saying] at clicked
  obtain ⟨-, position⟩ := ElementPanel.position?_of_answers positive short answers k.value
  refine ⟨fun i p named target => ?_, fun outside => ?_⟩
  · rw [named] at position
    dsimp only at position
    rw [named, position, target] at clicked
    exact clicked
  · have missing : s.workspace.overlays.position? (k.value : Number) = none := by
      rw [position]
      cases named : k.value with
      | zero => rfl
      | succ i =>
          dsimp only
          rw [List.getElem?_eq_none_iff]
          omega
    rw [missing] at clicked
    exact clicked

namespace SessionSetup

variable {u : SessionSetup} {width height m : Nat}

/-- When the elements were asked for and drawn, the answer to the request is what is up. -/
theorem shows_elements
    (usual : u.settings = { screen := ⟨width, height⟩, overlays := { maxElements := m } })
    (wide : 0 < width) (high : 0 < height) (hs : List Happening) {ts : List Turn}
    (drawn : ((u.start.after hs).next (.say ListWord.numbers.text)).DrawnBy .elements ts) :
    Session.Shows (k := .elements) (u.start.after hs)
      (ElementPanel.course (u.start.after hs).workspace.sources u.screen (m : Number))
      (((u.start.after hs).next (.say ListWord.numbers.text)).turns ts) := by
  have area : u.screen.hasArea = true := hasArea_screen usual wide high
  have most : u.outfit.mostElements = (m : Number) := by rw [outfit, usual]
  refine shows_after (k := .elements) usual hs rfl area rfl (fun q same => ?_)
    ListWord.numbers.isUsual_saying (ListWord.findMatching_builtins ListWord.numbers) drawn
  have standard : q.content.most = (m : Number) := (Option.some.inj same).trans most
  show Except.ok (q.request (.render (.detect q.content.most))) = _
  rw [standard]
  rfl

/-- After the elements were asked for and drawn, there are targets, whatever their source did: the
table has them in order, counted from 1. Clicking a number moves the pointer to the target in its
place and clicks there once, as far as the desktop takes that. A number that no target has calls for
nothing. -/
theorem click_on_element
    (usual : u.settings = { screen := ⟨width, height⟩, overlays := { maxElements := m } })
    (wide : 0 < width) (high : 0 < height) (positive : 0 < m) (hs : List Happening)
    (short : ElementPanel.Short (u.start.after hs).workspace.sources.elements m) {ts : List Turn}
    (drawn : ((u.start.after hs).next (.say ListWord.numbers.text)).DrawnBy .elements ts)
    (k : Numeral) :
    let targets :=
      ElementPanel.targets u.screen (u.start.after hs).workspace.sources.elements m
    let shown := ((u.start.after hs).next (.say ListWord.numbers.text)).turns ts
    let clicked := shown.next (.say (GridWord.click k).text)
    (shown.workspace.overlays.table = targets ∧ targets ≠ []) ∧
    (∀ i p, k.value = i + 1 → targets[i]? = some p →
      u.start.workspace.desktop.Takes [.movePointer p, .click .left 1] →
        clicked.workspace.desktop.actions =
          shown.workspace.desktop.actions ++ [.movePointer p, .click .left 1]) ∧
    (k.value = 0 ∨ targets.length < k.value →
      clicked.workspace.desktop = shown.workspace.desktop) := by
  have shows := shows_elements usual wide high hs drawn
  have reached : (((u.start.after hs).next (.say ListWord.numbers.text)).turns
      ts).workspace.reach.overlays = true := by
    rw [shows.reach]
    exact (u.furnished_after hs).1
  obtain ⟨hit, miss⟩ := (shows.usual (usual_after usual hs)).next_click_of_answers reached positive
    short shows.answers k
  obtain ⟨table, -⟩ := ElementPanel.position?_of_answers positive short shows.answers 0
  obtain ⟨some_, -⟩ := ElementPanel.length_targets u.screen positive short
  refine ⟨⟨table, List.length_pos_iff.1 some_⟩, fun i p named target takes => ?_, miss⟩
  refine hit i p named target fun a mem calls => ?_
  rw [shows.desktop, (Session.underway_after u hs).refuses]
  exact takes a mem calls

/-- Two of three elements are shown. A click on the second one goes to the middle of its bounds, a
point between pixels; the third one is not shown. -/
theorem click_on_second_element :
    let source : ElementSource := {
      detect := fun _ =>
        .ok [⟨⟨0, 0, 10, 10⟩, none⟩, ⟨⟨10, 20, 5, 5⟩, none⟩, ⟨⟨40, 40, 8, 8⟩, none⟩] }
    let u : SessionSetup := {
      settings := { screen := ⟨300, 300⟩, overlays := { maxElements := 2 } }, platform := "linux"
      files := .empty "/work", environment := [], now := ⟨2024, 6, 7, 8, 9, 10⟩
      elements := some source }
    let two : Numeral := ⟨['2'], by decide, List.all_eq_true.1 rfl⟩
    let three : Numeral := ⟨['3'], by decide, List.all_eq_true.1 rfl⟩
    let asked := (u.start.after []).next (.say ListWord.numbers.text)
    let shown := asked.turns [.drain]
    let clicked (k : Numeral) := (shown.next (.say (GridWord.click k).text)).workspace.desktop
    asked.DrawnBy .elements [.drain] ∧
    shown.workspace.overlays.table = [⟨5, 5⟩, ⟨13, 23⟩] ∧
    (clicked two).actions =
      shown.workspace.desktop.actions ++ [.movePointer ⟨13, 23⟩, .click .left 1] ∧
    clicked three = shown.workspace.desktop := by
  intro source u two three
  have drawn : ((u.start.after []).next (.say ListWord.numbers.text)).DrawnBy .elements [.drain] :=
    drawnBy_drain (u := u) rfl (fun _ => rfl) ListWord.numbers.isUsual_saying
      (ListWord.findMatching_builtins ListWord.numbers)
  have short : ElementPanel.Short (some source) 2 := by
    rintro s same found answered
    obtain rfl := Option.some.inj same
    obtain rfl := Except.ok.inj answered
    decide
  have targets : ElementPanel.targets u.screen (some source) 2 = [⟨5, 5⟩, ⟨13, 23⟩] := by
    decide +kernel
  have clicks := click_on_element (u := u) (m := 2) rfl (by decide) (by decide) (by decide) []
    short drawn
  rw [show (u.start.after []).workspace.sources.elements = some source from rfl, targets] at clicks
  obtain ⟨⟨table, -⟩, hit, -⟩ := clicks two
  obtain ⟨-, -, miss⟩ := clicks three
  dsimp only
  exact ⟨drawn, table, hit 1 _ rfl rfl fun _ _ _ => rfl, miss (.inr (by decide))⟩

end SessionSetup

end VoiceControl
