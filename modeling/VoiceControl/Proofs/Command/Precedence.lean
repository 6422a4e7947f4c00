import VoiceControl.Command.Builtin
import VoiceControl.Proofs.Command.Order

/-!
# Precedence among the built-in commands

Seven built-in commands have the highest of the priorities with a name and are asked first, in the
order of their registration. All the others are below it.
-/

namespace VoiceControl.Command

variable {o : BuiltinOptions}

theorem high_or_below_of_mem_builtins :
    ∀ c ∈ builtins o, c.priority = Priority.high ∨ c.priority.lt Priority.high = true := by
  unfold builtins numbered
  simp only [List.zipIdx_cons, List.zipIdx_nil, List.map_cons, List.map_nil, List.forall_mem_cons]
  and_intros
  all_goals first | exact .inl rfl | exact .inr rfl | exact List.forall_mem_nil _

/-- The built-in commands that are asked before a drag is considered. -/
def beforeDrag (o : BuiltinOptions) : List Command :=
  [typeText 0 o.symbols, deleteWord 1, deleteLine 2, clickNumber 14 o.lexicon]

/-- The built-in commands below the highest priority. -/
def lowRanks (o : BuiltinOptions) : List Command :=
  (builtins o).filter (·.priority ≠ Priority.high)

/-- The built-in commands that are asked after a drag was considered. -/
def afterDrag (o : BuiltinOptions) : List Command :=
  [refineGrid 16 o.lexicon, switchToWindowNumber 26 o.lexicon] ++
    ((Registry.mk []).registerAll (lowRanks o)).commands

theorem commands_builtins (o : BuiltinOptions) :
    ((Registry.mk []).registerAll (builtins o)).commands =
      beforeDrag o ++ dragBetweenNumbers 15 o.lexicon :: afterDrag o :=
  Registry.commands_registerAll_start high_or_below_of_mem_builtins

end VoiceControl.Command
