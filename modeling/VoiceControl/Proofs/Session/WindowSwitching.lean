import VoiceControl.Proofs.Number.Natural
import VoiceControl.Proofs.Session.Showing

/-!
# Switching to a listed window

The list of windows is asked for and drawn, and then a number is said. The number goes from the
utterance to the overlay that is up, and the overlay looks it up in the list that was drawn last.

* `Session.Usual.next_switch`: what switching to a number does while the list is up.
* `SessionSetup.focus_of_switch`: which window is focused, and when the list is taken down.
-/

namespace VoiceControl

open VoiceControl.Command

/-! ## Inquiries -/

/-- What signals ask of sources. -/
def Signal.inquiries (signals : List Signal) : List Inquiry :=
  signals.filterMap fun
    | .inquiry i => some i
    | .notice _ | .event _ => none

@[simp] theorem Signal.inquiries_nil : Signal.inquiries [] = [] := rfl

@[simp] theorem Signal.inquiries_singleton (i : Inquiry) : Signal.inquiries [.inquiry i] = [i] :=
  rfl

theorem Journal.inquiries_publish (j : Journal) (ch : Channel) (e : Event) :
    (j.publish ch e).inquiries = j.inquiries := by
  unfold publish
  split
  · cases ch <;> rfl
  · rfl

theorem Workspace.inquiries_hear (w : Workspace) (signals : List Signal) :
    (w.hear signals).journal.inquiries = w.journal.inquiries ++ Signal.inquiries signals := by
  show (signals.foldl Journal.hear w.journal).inquiries = _
  generalize w.journal = j
  induction signals generalizing j with
  | nil => exact (List.append_nil _).symm
  | cons s signals ih =>
      rw [List.foldl_cons, ih]
      cases s with
      | notice n => rfl
      | event e => exact congrArg (· ++ _) (j.inquiries_publish .main e)
      | inquiry i => exact List.append_assoc _ _ _

/-- Taking the list of windows down asks nothing. -/
theorem Coordinator.inquiries_hide_windows (c : Coordinator) :
    Signal.inquiries (c.hide .windows).signals = [] := by
  by_cases up : c.current = some .windows
  · cases there : c.windows with
    | none => simp [hide, has, overlay?, there, Signal.inquiries]
    | some p =>
        rw [hide_of_eq (k := .windows) there up]
        show Signal.inquiries ((p.request .wipe).2 ++ _) = []
        unfold Panel.request
        split <;> rfl
  · rw [hide_of_ne up]
    rfl

theorem Workspace.inquiries_ask_hide (w : Workspace) :
    (w.ask (·.hide .windows)).2.journal.inquiries = w.journal.inquiries := by
  have silent := w.overlays.inquiries_hide_windows
  refine (Workspace.inquiries_hear _ _).trans ?_
  rw [silent, List.append_nil]

/-! ## The command -/

section Switch

/-- The overlays once an entry was activated: the list of windows is taken down if that worked. -/
def Coordinator.activated (c : Coordinator) : Except Failure Bool → Coordinator
  | .ok true => (c.hide .windows).coordinator
  | .ok false | .error _ => c

/-- The list of windows goes down exactly if the activation worked. -/
theorem Coordinator.current_activated {c : Coordinator} {p : WindowPanel}
    (there : c.windows = some p) (up : c.current = some .windows) (a : Except Failure Bool) :
    (c.activated a).current ≠ some .windows ↔ a = .ok true := by
  rcases a with f | focused
  · simp [activated, up]
  · cases focused with
    | false => simp [activated, up]
    | true => simp [activated, hide_of_eq (k := .windows) there up]

variable {w : Workspace} {n : Number}

/-- Switching to a number activates its entry, and nothing else is asked of a source. -/
theorem Command.on_switch {lx : Lexicon} {text : String} (id : Nat)
    (reached : w.reach.overlays = true)
    (target : switchTarget? lx (Utterance.plain text.toList) = some n) :
    let a := w.overlays.activate w.sources n
    ∃ journal, (((switchToWindowNumber id lx).execute text).on w).2 =
        { w with overlays := w.overlays.activated a.1, journal } ∧
      journal.inquiries = w.journal.inquiries ++ Signal.inquiries a.2 := by
  unfold switchToWindowNumber
  dsimp only
  rw [target]
  dsimp only
  rw [Act.on_bind, Act.on_hasOverlays reached]
  dsimp only
  rw [if_pos rfl, Act.on_bind, Act.on_activate reached]
  have heard := w.inquiries_hear (w.overlays.activate w.sources n).2
  generalize w.overlays.activate w.sources n = a at heard ⊢
  obtain ⟨f | focused, signals⟩ := a
  · exact ⟨_, rfl, heard⟩
  · dsimp only at heard ⊢
    cases focused with
    | false =>
        rw [if_neg Bool.false_ne_true, Act.on_bind, Act.on_report]
        obtain ⟨j, told, same⟩ := Workspace.remarked_published (w.hear signals)
          (w.hear signals).reach.events _
        exact ⟨j, told, same.trans heard⟩
    | true =>
        have still : (w.hear signals).reach.overlays = true := reached
        have down := (w.hear signals).inquiries_ask_hide
        rw [if_pos rfl, Act.on_bind, Act.on_ask still]
        dsimp only
        rw [Act.on_bind, Act.on_report]
        obtain ⟨j, told, same⟩ := Workspace.remarked_published
          ((w.hear signals).ask (·.hide .windows)).2 _ _
        exact ⟨j, told, same.trans (down.trans heard)⟩

end Switch

/-! ## The list -/

namespace WindowPanel

theorem getElem?_listed (screen : Screen Number) (ws : List WindowInfo) (i : Nat) :
    (listed screen ws)[i]? = ws[i]?.map fun w => ⟨w, i + 1, entryAt screen i⟩ := by
  simp [listed, List.getElem?_zipIdx, Function.comp_def]

variable {sources : Sources} {source : WindowSource} {screen : Screen Number} {m : Nat}
  {ws : List WindowInfo}

/-- While the first `m` windows are what is up, a number is activated by focusing the window that
was listed at its place, if there is one. -/
theorem activate_of_answers {c : Coordinator} (there : sources.windows = some source)
    (answer : source.list (m : Number) = .ok ws) (few : ws.length < Number.exactLimit)
    (answers : Coordinator.Answers (k := .windows) c (course screen there answer)) (n : Nat) :
    c.activate sources (n : Number) =
      match n with
      | i + 1 =>
          match (ws.take m)[i]? with
          | some w => (source.focus w.id, [.inquiry (.focus w.id)])
          | none => (.ok false, [])
      | 0 => (.ok false, []) := by
  obtain ⟨p, x, hp, content⟩ := answers.panel
  have items : p.content.items = listed screen (ws.take m) := by
    rw [content]
    show listed screen (ws.take ((m : Number).cut ws.length)) = _
    rw [Number.take_cut_natCast few]
  have item : item? p (n : Number) =
      match n with
      | i + 1 => (listed screen (ws.take m))[i]?
      | 0 => none := by
    have short : (listed screen (ws.take m)).length < Number.exactLimit := by
      simp only [listed, List.length_map, List.length_zipIdx, List.length_take]
      omega
    rw [item?, items]
    exact Number.entry?_natCast short n
  have asks : c.activate sources (n : Number) = activate p sources.windows (n : Number) := by
    rw [Coordinator.activate, answers.up, show c.windows = some p from hp]
  rw [asks]
  unfold activate
  rw [there, item]
  cases n with
  | zero => rfl
  | succ i =>
      dsimp only
      rw [getElem?_listed]
      cases (ws.take m)[i]? <;> rfl

end WindowPanel

/-! ## Sessions -/

/-- A session in which the list of windows is up activates the entry of a number for an utterance
that is for a switch to the number, and it asks nothing else of a source. -/
theorem Session.Usual.next_switch {s : Session} {o : BuiltinOptions} (h : s.Usual o)
    (reached : s.workspace.reach.overlays = true)
    (up : s.workspace.overlays.current = some .windows) {x : Saying} (usual : x.isUsual = true)
    {id : Nat} {lx : Lexicon}
    (found : s.registry.findMatching x.text = (some (switchToWindowNumber id lx), []))
    {n : Number} (target : switchTarget? lx (Utterance.plain x.text.toList) = some n) :
    let w := (s.next (.say x.text)).workspace
    let a := s.workspace.overlays.activate s.workspace.sources n
    w.overlays = s.workspace.overlays.activated a.1 ∧
      w.journal.inquiries = s.workspace.journal.inquiries ++ Signal.inquiries a.2 := by
  have still {w : Workspace} (before : s.workspace.Remarked w) : w.reach.overlays = true := by
    rw [before.reach, reached]
  have valid (w : Workspace) (before : s.workspace.Remarked w) :
      ((switchToWindowNumber id lx).validate x.text).on w = (.ok true, w) := by
    have look : (isUp .windows).on w = (.ok (w.overlays.current == some .windows), w) :=
      Act.on_look (still before)
    rw [before.overlays, up] at look
    exact look
  obtain ⟨w₁, w₂, before, after, said⟩ := h.next_command usual found valid
    (silent_switchToWindowNumber id lx x.text)
  obtain ⟨j, done, asked⟩ := on_switch id (still before) target
  obtain ⟨j₁, rfl, same₁⟩ := before
  rw [done] at after
  obtain ⟨j₂, rfl, same₂⟩ := after
  dsimp only
  rw [said]
  refine ⟨rfl, same₂.trans (asked.trans ?_)⟩
  rw [same₁]

/-- While the first `m` windows of a list are what is up, an utterance that switches to a number
asks for the focus of the window that is listed under the number, once, and the list goes down if
that worked. -/
theorem Session.Usual.next_switch_of_answers {s : Session} {o : BuiltinOptions} (h : s.Usual o)
    (reached : s.workspace.reach.overlays = true) {screen : Screen Number} {source : WindowSource}
    {m : Nat} {ws : List WindowInfo} {sources : Sources} (same : s.workspace.sources = sources)
    (there : sources.windows = some source) (answer : source.list (m : Number) = .ok ws)
    (few : ws.length < Number.exactLimit)
    (answers : Coordinator.Answers (k := .windows) s.workspace.overlays
      (WindowPanel.course screen there answer)) (k : Numeral) :
    let w := (s.next (.say (ListWord.switch k).text)).workspace
    (∀ i window, k.value = i + 1 → i < m → ws[i]? = some window →
      w.journal.inquiries = s.workspace.journal.inquiries ++ [.focus window.id] ∧
        (w.overlays.current ≠ some .windows ↔ source.focus window.id = .ok true)) ∧
    (k.value = 0 ∨ min m ws.length < k.value →
      w.journal.inquiries = s.workspace.journal.inquiries ∧
        w.overlays.current = some .windows) := by
  have found : s.registry.findMatching (ListWord.switch k).text =
      (some (switchToWindowNumber 26 o.lexicon), []) := by
    rw [h.registry]
    exact ListWord.findMatching_builtins (ListWord.switch k)
  obtain ⟨now, asked⟩ := h.next_switch reached answers.up (ListWord.switch k).isUsual_saying found
    (ListWord.switchTarget?_switch _ k)
  subst same
  have activated := WindowPanel.activate_of_answers there answer few answers k.value
  obtain ⟨p, -, hp, -⟩ := answers.panel
  refine ⟨fun i window number inside listed => ?_, fun outside => ?_⟩
  · have entry : (ws.take m)[i]? = some window := by
      rw [List.getElem?_take_of_lt inside, listed]
    rw [number] at activated
    simp only [entry] at activated
    rw [number, activated] at now asked
    dsimp only at now asked
    rw [now, asked, Signal.inquiries_singleton]
    exact ⟨rfl, Coordinator.current_activated hp answers.up _⟩
  · have nothing : s.workspace.overlays.activate s.workspace.sources (k.value : Number) =
        (.ok false, []) := by
      rw [activated]
      cases number : k.value with
      | zero => rfl
      | succ i =>
          have missing : (ws.take m)[i]? = none := by
            rw [List.getElem?_eq_none_iff, List.length_take]
            omega
          simp only [missing]
    rw [nothing] at now asked
    dsimp only at now asked
    rw [now, asked, Signal.inquiries_nil, List.append_nil]
    exact ⟨rfl, answers.up⟩

namespace SessionSetup

variable {u : SessionSetup} {m : Nat}

/-- When the windows were asked for and drawn, the first `m` of those that their source lists are
what is up. -/
theorem shows_windows (usual : u.settings = { overlays := { maxWindows := m } })
    (hs : List Happening) {source : WindowSource} {ws : List WindowInfo}
    (there : (u.start.after hs).workspace.sources.windows = some source)
    (answer : source.list (m : Number) = .ok ws) {ts : List Turn}
    (drawn : ((u.start.after hs).next (.say ListWord.windows.text)).DrawnBy .windows ts) :
    Session.Shows (k := .windows) (u.start.after hs) (WindowPanel.course u.screen there answer)
      (((u.start.after hs).next (.say ListWord.windows.text)).turns ts) := by
  have area : u.screen.hasArea = true := hasArea_screen usual (by decide) (by decide)
  have most : u.outfit.mostWindows = (m : Number) := by rw [outfit, usual]
  refine shows_after (k := .windows) usual hs rfl area rfl (fun q same => ?_)
    ListWord.windows.isUsual_saying (ListWord.findMatching_builtins ListWord.windows) drawn
  have standard : q.content.most = (m : Number) := (Option.some.inj same).trans most
  show Except.ok (q.request (.render (.list q.content.most))) = _
  rw [standard]
  rfl

/-- After the windows were asked for and drawn, switching to a number asks for the focus of the
window that is listed under it, once, and takes the list down if that worked. A number that no
window has asks for nothing and leaves the list up. Lists are shorter than the natural numbers that
are exact. -/
theorem focus_of_switch (usual : u.settings = { overlays := { maxWindows := m } })
    (hs : List Happening) {source : WindowSource} {ws : List WindowInfo}
    (there : (u.start.after hs).workspace.sources.windows = some source)
    (answer : source.list (m : Number) = .ok ws) (few : ws.length < Number.exactLimit)
    {ts : List Turn}
    (drawn : ((u.start.after hs).next (.say ListWord.windows.text)).DrawnBy .windows ts)
    (k : Numeral) :
    let shown := ((u.start.after hs).next (.say ListWord.windows.text)).turns ts
    let switched := shown.next (.say (ListWord.switch k).text)
    (∀ i w, k.value = i + 1 → i < m → ws[i]? = some w →
      switched.workspace.journal.inquiries =
          shown.workspace.journal.inquiries ++ [.focus w.id] ∧
        (switched.workspace.overlays.current ≠ some .windows ↔
          source.focus w.id = .ok true)) ∧
    (k.value = 0 ∨ min m ws.length < k.value →
      switched.workspace.journal.inquiries = shown.workspace.journal.inquiries ∧
        switched.workspace.overlays.current = some .windows) := by
  have shows := shows_windows usual hs there answer drawn
  have reached : (((u.start.after hs).next (.say ListWord.windows.text)).turns
      ts).workspace.reach.overlays = true := by
    rw [shows.reach]
    exact (u.furnished_after hs).1
  exact (shows.usual (usual_after usual hs)).next_switch_of_answers reached shows.sources there
    answer few shows.answers k

/-- The list is kept to two windows. The second one is focused and the list goes down; a third one
is not listed. -/
theorem focus_of_switch_last :
    let source : WindowSource := {
      list := fun _ => .ok [⟨"a", "Mail", none⟩, ⟨"b", "Notes", none⟩, ⟨"c", "Shell", none⟩]
      focus := fun id => .ok (id == "b") }
    let u : SessionSetup := {
      settings := { overlays := { maxWindows := 2 } }, platform := "linux"
      files := .empty "/work", environment := [], now := ⟨2024, 6, 7, 8, 9, 10⟩
      windows := some source }
    let two : Numeral := ⟨['2'], by decide, List.all_eq_true.1 rfl⟩
    let three : Numeral := ⟨['3'], by decide, List.all_eq_true.1 rfl⟩
    let asked := (u.start.after []).next (.say ListWord.windows.text)
    let shown := asked.turns [.drain]
    let switched (k : Numeral) := (shown.next (.say (ListWord.switch k).text)).workspace
    asked.DrawnBy .windows [.drain] ∧
    ((switched two).journal.inquiries = shown.workspace.journal.inquiries ++ [.focus "b"] ∧
      (switched two).overlays.current ≠ some .windows) ∧
    (switched three).journal.inquiries = shown.workspace.journal.inquiries ∧
      (switched three).overlays.current = some .windows := by
  intro source u two three
  have drawn : ((u.start.after []).next (.say ListWord.windows.text)).DrawnBy .windows [.drain] :=
    drawnBy_drain (u := u) rfl (fun _ => rfl) ListWord.windows.isUsual_saying
      (ListWord.findMatching_builtins ListWord.windows)
  have there : (u.start.after []).workspace.sources.windows = some source := rfl
  have switch := focus_of_switch (u := u) (m := 2) rfl [] there rfl (by decide) drawn
  have focused := (switch two).1 1 ⟨"b", "Notes", none⟩ rfl (by decide) rfl
  dsimp only
  exact ⟨drawn, ⟨focused.1, focused.2.2 rfl⟩, (switch three).2 (.inr (by decide))⟩

end SessionSetup

end VoiceControl
