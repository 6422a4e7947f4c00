import VoiceControl.Command.Registry

/-!
# The effects of acts

What an act gives, which actions it does on the desktop and what it leaves of the overlays, on a
workspace where nothing is refused and the overlays are reached. The journal is left out: it is
written and never read.
-/

namespace VoiceControl

namespace Workspace

/-- A workspace in which no call is refused and the overlays are reached. -/
structure Willing (w : Workspace) : Prop where
  granted : w.desktop.refuses = fun _ _ => none
  reached : w.reach.overlays = true

/-- A workspace has become another one by actions on the desktop, and its overlays are now `c`. -/
structure Became (w : Workspace) (done : List Action) (c : Coordinator) (w' : Workspace) :
    Prop where
  actions : w'.desktop.actions = w.desktop.actions ++ done
  overlays : w'.overlays = c
  refuses : w'.desktop.refuses = w.desktop.refuses
  reach : w'.reach = w.reach

variable {w w' w'' : Workspace} {done more : List Action} {c d : Coordinator}

theorem became_refl (w : Workspace) : w.Became [] w.overlays w where
  actions := (List.append_nil _).symm
  overlays := rfl
  refuses := rfl
  reach := rfl

theorem Became.trans (h : w.Became done c w') (h' : w'.Became more d w'') :
    w.Became (done ++ more) d w'' where
  actions := by rw [h'.actions, h.actions, List.append_assoc]
  overlays := h'.overlays
  refuses := h'.refuses.trans h.refuses
  reach := h'.reach.trans h.reach

/-- Doing nothing after doing nothing. -/
theorem Became.still (h : w.Became [] w.overlays w') (h' : w'.Became [] w'.overlays w'') :
    w.Became [] w.overlays w'' := by
  have both := h.trans h'
  rwa [h.overlays, List.append_nil] at both

theorem Became.willing (h : w.Became done c w') (willing : w.Willing) : w'.Willing where
  granted := h.refuses.trans willing.granted
  reached := (congrArg Reach.overlays h.reach).trans willing.reached

end Workspace

namespace Act

variable {α β : Type} {w : Workspace}

/-- An act gives a value, does actions on the desktop and leaves the overlays as `c`. -/
def Gives (act : Act α) (w : Workspace) (a : α) (done : List Action) (c : Coordinator) : Prop :=
  ∃ w', act.on w = (.ok a, w') ∧ w.Became done c w'

theorem on_bind (x : Act α) (f : α → Act β) (w : Workspace) :
    (x >>= f).on w =
      match x.on w with
      | (.ok a, w') => (f a).on w'
      | (.error e, w') => (.error e, w') := by
  simp only [on, bind, ExceptT.bind, ExceptT.mk, ExceptT.run, StateT.bind]
  rcases x w with ⟨r, w'⟩
  cases r <;> rfl

theorem on_get (w : Workspace) : (get : Act Workspace).on w = (.ok w, w) := rfl

theorem on_set (w' w : Workspace) : (set w' : Act PUnit).on w = (.ok ⟨⟩, w') := rfl

theorem on_attempt (x : Act α) (w : Workspace) :
    (attempt x).on w = (.ok (x.on w).1, (x.on w).2) := rfl

theorem on_call (c : Call) (w : Workspace) :
    (call c).on w = ((w.desktop.call c).1, { w with desktop := (w.desktop.call c).2 }) := by
  rw [call, on_bind, on_get]
  dsimp only
  rw [on_bind, on_set]
  dsimp only
  cases (w.desktop.call c).1 <;> rfl

/-- A request is put to the overlays that are reached. -/
theorem on_ask (reached : w.reach.overlays = true)
    (request : Coordinator → Coordinator.Reply Bool) :
    (ask request).on w = (.ok (w.ask request).1, (w.ask request).2) := by
  rw [ask, on_bind, on_get]
  dsimp only
  rw [if_pos reached, on_bind, on_set]
  rfl

/-- An entry of the overlays that are reached is activated. -/
theorem on_activate (reached : w.reach.overlays = true) (n : Number) :
    (activate n).on w =
      ((w.overlays.activate w.sources n).1, w.hear (w.overlays.activate w.sources n).2) := by
  rw [activate, on_bind, on_get]
  dsimp only
  rw [if_pos reached, on_bind, on_set]
  dsimp only
  cases (w.overlays.activate w.sources n).1 <;> rfl

theorem on_look {query : Coordinator → α} {otherwise : α} (reached : w.reach.overlays = true) :
    (look query otherwise).on w = (.ok (query w.overlays), w) := by
  rw [look, on_bind, on_get]
  dsimp only
  rw [if_pos reached]
  rfl

theorem on_hasOverlays (reached : w.reach.overlays = true) : hasOverlays.on w = (.ok true, w) := by
  rw [← reached]
  rfl

theorem pressEach_nil (held : List String) (action : Act Unit) (w : Workspace) :
    pressEach held [] action w = ((held, (action.on w).1), (action.on w).2) := rfl

theorem pressEach_cons (held : List String) (key : String) (keys : List String)
    (action : Act Unit) (w : Workspace) :
    pressEach held (key :: keys) action w =
      match (act (.pressKey key)).on w with
      | (.ok (), w') => pressEach (key :: held) keys action w'
      | (.error f, w') => ((held, .error f), w') := by
  rw [pressEach]
  simp only [bind, StateT.bind]
  rcases pressed : (act (.pressKey key)).on w with ⟨f | ⟨⟩, w'⟩
  · rw [on] at pressed
    simp only [pressed]
    rfl
  · rw [on] at pressed
    simp only [pressed]

theorem on_withModifiers (modifiers : List String) (action : Act Unit) (w : Workspace) :
    (withModifiers modifiers action).on w =
      let pressed := pressEach [] modifiers action w
      (do releaseEach pressed.1.1; conclude pressed.1.2 : Act Unit).on pressed.2 := rfl

theorem gives_pure (a : α) (w : Workspace) : Gives (pure a) w a [] w.overlays :=
  ⟨w, rfl, w.became_refl⟩

theorem Gives.bind {x : Act α} {f : α → Act β} {a : α} {b : β} {done more : List Action}
    {c d : Coordinator} (hx : x.Gives w a done c)
    (hf : ∀ w', w.Became done c w' → (f a).Gives w' b more d) :
    (x >>= f).Gives w b (done ++ more) d := by
  obtain ⟨w', ran, became⟩ := hx
  obtain ⟨w'', went, became'⟩ := hf w' became
  refine ⟨w'', ?_, became.trans became'⟩
  rw [on_bind, ran]
  exact went

theorem Gives.cast {x : Act α} {a b : α} {done more : List Action} {c d : Coordinator}
    (h : x.Gives w a done c) (value : a = b) (actions : done = more) (overlays : c = d) :
    x.Gives w b more d := by
  rw [← value, ← actions, ← overlays]
  exact h

/-- An act that goes first without doing anything. -/
theorem Gives.before {x : Act α} {f : α → Act β} {a : α} {b : β} {done : List Action}
    {d : Coordinator} (hx : x.Gives w a [] w.overlays)
    (hf : ∀ w', w.Became [] w.overlays w' → (f a).Gives w' b done d) :
    (x >>= f).Gives w b done d := by
  have both := hx.bind hf
  rwa [List.nil_append] at both

/-- An act that goes last without doing anything. -/
theorem Gives.after {x : Act α} {f : α → Act β} {a : α} {b : β} {done : List Action}
    {c : Coordinator} (hx : x.Gives w a done c)
    (hf : ∀ w', w.Became done c w' → (f a).Gives w' b [] w'.overlays) :
    (x >>= f).Gives w b done c := by
  have both : (x >>= f).Gives w b (done ++ []) c := hx.bind fun w' became =>
    (hf w' became).cast rfl rfl became.overlays
  rwa [List.append_nil] at both

/-! ## Reading and writing down -/

theorem gives_get (w : Workspace) : (get : Act Workspace).Gives w w [] w.overlays :=
  ⟨w, rfl, w.became_refl⟩

theorem gives_publish (channel : Option Channel) (e : Event) (w : Workspace) :
    (publish channel e).Gives w () [] w.overlays := by
  cases channel with
  | none => exact gives_pure () w
  | some ch => exact ⟨_, rfl, (List.append_nil _).symm, rfl, rfl, rfl⟩

theorem gives_report (name text : String) (detail : Entries Tree) (w : Workspace) :
    (Command.report name text detail).Gives w () [] w.overlays :=
  (gives_get w).before fun w' became =>
    (gives_publish _ _ w').cast rfl rfl became.overlays

/-- Trying an act does what the act does. -/
theorem Gives.attempt {x : Act α} {a : α} {done : List Action} {c : Coordinator}
    (h : x.Gives w a done c) : (Act.attempt x).Gives w (.ok a) done c := by
  obtain ⟨w', ran, became⟩ := h
  refine ⟨w', ?_, became⟩
  rw [on_attempt, ran]

/-! ## The overlays -/

theorem gives_look {query : Coordinator → α} {otherwise : α} (willing : w.Willing) :
    (look query otherwise).Gives w (query w.overlays) [] w.overlays :=
  ⟨w, on_look willing.reached, w.became_refl⟩

/-- A request goes to the overlays as they are. -/
theorem gives_ask {request : Coordinator → Coordinator.Reply Bool} (willing : w.Willing) :
    (ask request).Gives w (request w.overlays).value [] (request w.overlays).coordinator :=
  ⟨(w.ask request).2, on_ask willing.reached request, (List.append_nil _).symm, rfl, rfl, rfl⟩

/-! ## The desktop -/

theorem gives_act (a : Action) (willing : w.Willing) : (act a).Gives w () [a] w.overlays := by
  have granted : w.desktop.call (.act a) =
      (.ok (), { w.desktop with calls := .act a :: w.desktop.calls }.perform (.act a)) := by
    simp [Desktop.call, willing.granted]
  refine ⟨{ w with desktop := (w.desktop.call (.act a)).2 }, ?_, ?_⟩
  · rw [act, on_call, granted]
  · rw [granted]
    refine ⟨Desktop.actions_perform_act _ a, rfl, ?_, rfl⟩
    cases a <;> rfl

/-- An action among others that leaves the overlays as they are. -/
theorem Gives.act_bind {f : Unit → Act β} {b : β} {a : Action} {more : List Action}
    {d : Coordinator} (willing : w.Willing)
    (hf : ∀ w', w.Became [a] w.overlays w' → (f ()).Gives w' b more d) :
    (act a >>= f).Gives w b (a :: more) d :=
  (gives_act a willing).bind hf

/-- A drag presses the button at one point and releases it at the other. -/
theorem gives_drag (start finish : Point Number) (willing : w.Willing) :
    (drag start finish).Gives w ()
      [.movePointer start, .pressButton .left, .movePointer finish, .releaseButton .left]
      w.overlays := by
  refine Gives.act_bind willing fun w₁ h₁ => ?_
  have willing₁ := h₁.willing willing
  refine Gives.act_bind willing₁ fun w₂ h₂ => ?_
  have willing₂ := h₂.willing willing₁
  refine (gives_act _ willing₂).attempt.bind fun w₃ h₃ => ?_
  have willing₃ := h₃.willing willing₂
  refine Gives.act_bind willing₃ fun w₄ h₄ => ?_
  refine (gives_pure () w₄).cast rfl rfl ?_
  rw [h₄.overlays, h₃.overlays, h₂.overlays, h₁.overlays]

end Act

namespace Registry

variable {r : Registry} {c : Command} {text : String} {w : Workspace}

/-- The act that a command's turn consists of, once it was found. -/
theorem gives_process {result : DispatchResult} {done : List Action} {d : Coordinator}
    (found : r.findMatching text = (some c, []))
    (turn : ∀ sink w', w.Became [] w.overlays w' → (dispatch sink c text).Gives w' result done d) :
    (r.process text).Gives w result done d := by
  unfold process
  rw [found]
  refine (Act.gives_pure PUnit.unit w).before fun w₁ h₁ => ?_
  refine (Act.gives_get w₁).before fun w₂ h₂ => ?_
  exact turn _ w₂ (h₁.still h₂)

/-- A valid command that works is carried out. -/
theorem gives_process_of_valid {output : Option String} {done : List Action} {d : Coordinator}
    (found : r.findMatching text = (some c, []))
    (valid : ∀ w', w.Became [] w.overlays w' → (c.validate text).Gives w' true [] w'.overlays)
    (works : ∀ w', w.Became [] w.overlays w' → (c.execute text).Gives w' output done d) :
    (r.process text).Gives w ⟨output, true⟩ done d := by
  refine gives_process found fun sink w₁ h₁ => ?_
  unfold dispatch
  refine (Act.gives_publish _ _ w₁).before fun w₂ h₂ => ?_
  have h₁₂ := h₁.still h₂
  refine (valid w₂ h₁₂).attempt.before fun w₃ h₃ => ?_
  refine (works w₃ (h₁₂.still h₃)).attempt.after fun w₄ h₄ => ?_
  refine (Act.gives_publish _ _ w₄).before fun w₅ h₅ => ?_
  exact (Act.gives_pure _ w₅).cast rfl rfl h₅.overlays

/-- A command that is not valid is not carried out. -/
theorem gives_process_of_invalid (found : r.findMatching text = (some c, []))
    (invalid : ∀ w', w.Became [] w.overlays w' → (c.validate text).Gives w' false [] w'.overlays) :
    (r.process text).Gives w .nothing [] w.overlays := by
  refine gives_process found fun sink w₁ h₁ => ?_
  unfold dispatch
  refine (Act.gives_publish _ _ w₁).before fun w₂ h₂ => ?_
  have h₁₂ := h₁.still h₂
  refine (invalid w₂ h₁₂).attempt.before fun w₃ h₃ => ?_
  refine (Act.gives_publish _ _ w₃).before fun w₄ h₄ => ?_
  refine (Act.gives_pure _ w₄).cast rfl rfl ?_
  rw [h₄.overlays, h₃.overlays, h₂.overlays, h₁.overlays]

end Registry

end VoiceControl
