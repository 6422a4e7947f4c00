import VoiceControl.Proofs.Command.Precedence
import VoiceControl.Session

/-!
# Commands of the user's own

The commands that the configuration defines are registered in front of the built-in ones, and no
built-in command has a higher priority than they have. So they are asked first, in the order in
which they are configured: an utterance goes to the first of them that accepts it, and to the
built-in commands as if there were no others when none does.

* `SessionSetup.commands_start`: the commands of a session in the order in which they are asked.
* `SessionSetup.own_commands_win`: the dispatch of a session whose configuration defines commands.
-/

namespace VoiceControl

namespace Command

theorem priority_of_mem_customs {first : Nat} {s : CustomSettings} {lx : Option Lexicon}
    {c : Command} (h : c ∈ (customs first s lx).1) : c.priority = Priority.high := by
  obtain ⟨⟨d, i⟩, -, rfl⟩ := List.mem_map.1 h
  rfl

end Command

namespace SessionSetup

variable {u : SessionSetup}

/-- The definitions among the configured entries; entries that are none are left out. -/
def definitions (u : SessionSetup) : List CustomDefinition :=
  u.settings.custom.commands.filterMap CustomDefinition.ofTree?

/-- The command that a session makes of its `k`-th definition. -/
def ownCommand (u : SessionSetup) (k : Nat) (d : CustomDefinition) : Command :=
  Command.custom ((u.builtins u.lexicon.1).length + k) d
    (if u.settings.custom.fuzzy then some u.lexicon.1 else none)

/-- The built-in commands by themselves. -/
def builtinRegistry (u : SessionSetup) : Registry :=
  (Registry.mk []).registerAll (u.builtins u.lexicon.1)

/-- The same setup without the configured entries that are no definitions. -/
def withoutInvalid (u : SessionSetup) : SessionSetup :=
  let valid := u.settings.custom.commands.filter fun t => (CustomDefinition.ofTree? t).isSome
  { u with settings := { u.settings with
      custom := { u.settings.custom with commands := valid } } }

theorem definitions_withoutInvalid (u : SessionSetup) :
    u.withoutInvalid.definitions = u.definitions := by
  show (u.settings.custom.commands.filter _).filterMap _ = u.settings.custom.commands.filterMap _
  induction u.settings.custom.commands with
  | nil => rfl
  | cons t ts ih => cases h : CustomDefinition.ofTree? t <;> simp [h, ih]

/-- The commands that a session makes of its definitions, in their order. -/
def ownCommands (u : SessionSetup) : List Command :=
  u.definitions.zipIdx.map fun (d, k) => u.ownCommand k d

theorem getElem?_ownCommands (u : SessionSetup) (k : Nat) :
    u.ownCommands[k]? = u.definitions[k]?.map (u.ownCommand k) := by
  rw [ownCommands, List.getElem?_map, List.getElem?_zipIdx, Option.map_map, Nat.zero_add]
  rfl

theorem customs_eq_ownCommands (enabled : u.settings.custom.enabled = true) :
    (Command.customs (u.builtins u.lexicon.1).length u.settings.custom (some u.lexicon.1)).1 =
      u.ownCommands := by
  simp only [Command.customs, Command.definitions, enabled, if_true, List.filterMap_map]
  rfl

/-- The commands of a session: first its own in the order of their definitions, then the built-in
ones. -/
theorem commands_start (enabled : u.settings.custom.enabled = true) :
    u.start.registry.commands = u.ownCommands ++ u.builtinRegistry.commands := by
  have own := customs_eq_ownCommands enabled
  have high : ∀ c ∈ u.ownCommands, c.priority = Priority.high := by
    rw [← own]
    exact fun c hc => Command.priority_of_mem_customs hc
  have top : u.ownCommands.filter (·.priority = Priority.high) = u.ownCommands :=
    List.filter_eq_self.2 fun c hc => decide_eq_true (high c hc)
  have none_ : u.ownCommands.filter (·.priority ≠ Priority.high) = [] :=
    List.filter_eq_nil_iff.2 fun c hc => by simp [high c hc]
  have ranks : ∀ c ∈ u.ownCommands ++ u.builtins u.lexicon.1,
      c.priority = Priority.high ∨ c.priority.lt Priority.high = true := by
    intro c hc
    rcases List.mem_append.1 hc with own | builtin
    · exact .inl (high c own)
    · exact Command.high_or_below_of_mem_builtins c builtin
  have all := Registry.commands_registerAll_start ranks
  have alone := Registry.commands_registerAll_start
    fun c hc => ranks c (List.mem_append_right u.ownCommands hc)
  rw [List.filter_append, List.filter_append, top, none_, List.nil_append, List.append_assoc,
    ← alone] at all
  calc u.start.registry.commands
      = ((Registry.mk []).registerAll (u.ownCommands ++ u.builtins u.lexicon.1)).commands := by
        rw [← own]
        rfl
    _ = u.ownCommands ++ u.builtinRegistry.commands := all

/-- What a command of the user's accepts it may be chosen for: it is always switched on. -/
theorem eligible_ownCommand_iff {k : Nat} {d : CustomDefinition} {text : String}
    {enabledOnly : Bool} :
    (u.ownCommand k d).eligible text enabledOnly = true ↔
      (u.ownCommand k d).accepts text = .ok true := by
  have enabled : (u.ownCommand k d).enabled = true := rfl
  rw [Command.eligible, enabled, Bool.or_true, Bool.true_and]
  cases (u.ownCommand k d).accepts text <;> simp

theorem mem_ownCommands_iff {c : Command} :
    c ∈ u.ownCommands ↔ ∃ k d, u.definitions[k]? = some d ∧ c = u.ownCommand k d := by
  constructor
  · intro h
    obtain ⟨k, hk⟩ := List.getElem?_of_mem h
    rw [getElem?_ownCommands] at hk
    obtain ⟨d, hd, rfl⟩ := Option.map_eq_some_iff.1 hk
    exact ⟨k, d, hd, rfl⟩
  · rintro ⟨k, d, hd, rfl⟩
    have here : u.ownCommands[k]? = some (u.ownCommand k d) := by
      rw [getElem?_ownCommands, hd]
      rfl
    exact List.mem_of_getElem? here

/-- The user's commands are asked in the order of their definitions. -/
theorem of_find?_ownCommands {text : String} {enabledOnly : Bool} {c : Command}
    (chosen : u.ownCommands.find? (·.eligible text enabledOnly) = some c) :
    ∃ k d, (u.definitions[k]? = some d ∧ (u.ownCommand k d).accepts text = .ok true) ∧
      (∀ j < k, ∀ e,
        ¬ (u.definitions[j]? = some e ∧ (u.ownCommand j e).accepts text = .ok true)) ∧
      c = u.ownCommand k d := by
  obtain ⟨eligible, k, hk, rfl, before⟩ := List.find?_eq_some_iff_getElem.1 chosen
  -- the place of a command is that of its definition
  obtain ⟨d, hd, here⟩ := Option.map_eq_some_iff.1
    ((u.getElem?_ownCommands k).symm.trans (List.getElem?_eq_getElem hk))
  refine ⟨k, d, ⟨hd, ?_⟩, ?_, here.symm⟩
  · rw [← here] at eligible
    exact eligible_ownCommand_iff.1 eligible
  · rintro j hj e ⟨he, takes⟩
    have there : u.ownCommands[j]? = some (u.ownCommand j e) := by
      rw [getElem?_ownCommands, he]
      rfl
    have refused := before j hj
    rw [(List.getElem?_eq_some_iff.1 there).2, eligible_ownCommand_iff.2 takes] at refused
    cases refused

/-- The user's commands are asked before the built-in ones. -/
theorem findMatching_start_of_enabled (enabled : u.settings.custom.enabled = true) (text : String)
    (enabledOnly : Bool) :
    (u.start.registry.findMatching text enabledOnly).1 =
      (u.ownCommands.find? (·.eligible text enabledOnly)).or
        (u.builtinRegistry.findMatching text enabledOnly).1 := by
  rw [Registry.findMatching_fst, Registry.findMatching_fst, commands_start enabled,
    List.find?_append]

/-- Entries that are no definitions are noticed and change nothing else. -/
theorem start_withoutInvalid (enabled : u.settings.custom.enabled = true) :
    ∃ journal, u.withoutInvalid.start =
      { u.start with workspace := { u.start.workspace with journal } } := by
  have same : u.withoutInvalid.ownCommands = u.ownCommands := by
    rw [ownCommands, ownCommands, definitions_withoutInvalid]
    rfl
  have customs := (customs_eq_ownCommands (u := u.withoutInvalid) enabled).trans
    (same.trans (customs_eq_ownCommands enabled).symm)
  refine ⟨u.withoutInvalid.start.workspace.journal, ?_⟩
  unfold start
  simp only [customs]
  rfl

/-- An utterance that a command of the user's accepts goes to the first such command, in the order
of the configuration, and any other one goes where it would go without such commands. Entries that
are no definitions are noticed and change nothing else. -/
theorem own_commands_win (enabled : u.settings.custom.enabled = true) (text : String)
    (enabledOnly : Bool) :
    let takes k d := u.definitions[k]? = some d ∧ (u.ownCommand k d).accepts text = .ok true
    let found := (u.start.registry.findMatching text enabledOnly).1
    ((∃ k d, takes k d) →
      ∃ k d, takes k d ∧ (∀ j < k, ∀ e, ¬ takes j e) ∧ found = some (u.ownCommand k d)) ∧
    ((¬ ∃ k d, takes k d) → found = (u.builtinRegistry.findMatching text enabledOnly).1) ∧
    ∃ journal, u.withoutInvalid.start =
      { u.start with workspace := { u.start.workspace with journal } } := by
  intro takes found
  have split : found = _ := findMatching_start_of_enabled enabled text enabledOnly
  refine ⟨?_, ?_, start_withoutInvalid enabled⟩
  · rintro ⟨k, d, there, accepts⟩
    have some_ : (u.ownCommands.find? (·.eligible text enabledOnly)).isSome = true :=
      List.find?_isSome.2
        ⟨_, mem_ownCommands_iff.2 ⟨k, d, there, rfl⟩, eligible_ownCommand_iff.2 accepts⟩
    obtain ⟨c, chosen⟩ := Option.isSome_iff_exists.1 some_
    obtain ⟨i, e, taken, before, rfl⟩ := of_find?_ownCommands chosen
    refine ⟨i, e, taken, before, ?_⟩
    rw [split, chosen]
    rfl
  · intro none_
    have nobody : u.ownCommands.find? (·.eligible text enabledOnly) = none := by
      refine List.find?_eq_none.2 fun c hc chosen => ?_
      obtain ⟨k, d, there, rfl⟩ := mem_ownCommands_iff.1 hc
      exact none_ ⟨k, d, there, eligible_ownCommand_iff.1 chosen⟩
    rw [split, nobody, Option.none_or]

/-- The first of two definitions, behind an entry that is none, takes the word of a built-in command
with a mark attached to it. -/
theorem own_commands_win_enter :
    let action : Tree := .mapping [("type", .text "type_text"), ("text", .text "ok")]
    let u : SessionSetup := {
      settings := { custom := { enabled := true, fuzzy := true, commands := [
        .mapping [("trigger", .text "broken")],
        .mapping [("trigger", .text "enter"), ("action", action)],
        .mapping [("trigger", .text "Enter"), ("action", action)]] } }
      platform := "linux", files := .empty "/work", environment := []
      now := ⟨2024, 6, 7, 8, 9, 10⟩ }
    u.settings.custom.enabled = true ∧
      (u.builtinRegistry.findMatching "Enter!").1.map (·.name) = some "EnterCommand" ∧
      (u.start.registry.findMatching "Enter!").1 =
        some (u.ownCommand 0 ⟨"enter", .typeText "ok"⟩) := by
  intro action u
  have first : u.definitions[0]? = some ⟨"enter", .typeText "ok"⟩ := rfl
  have accepts : (u.ownCommand 0 ⟨"enter", .typeText "ok"⟩).accepts "Enter!" = .ok true := rfl
  obtain ⟨k, d, takes, before, found⟩ :=
    (own_commands_win (u := u) rfl "Enter!" true).1 ⟨0, _, first, accepts⟩
  cases k with
  | zero =>
      obtain rfl := Option.some.inj (takes.1.symm.trans first)
      exact ⟨rfl, by decide +kernel, found⟩
  | succ k => exact absurd ⟨first, accepts⟩ (before 0 (Nat.succ_pos k) _)

end SessionSetup

end VoiceControl
