import VoiceControl.Config.Settings
import VoiceControl.Data.Reserved
import VoiceControl.Failure

/-!
# Logging

Which log settings are in force: what is asked for on the command line wins over what is
configured.
-/

namespace VoiceControl

namespace LogSettings

/-- The settings in force when some are asked for over the configured ones. -/
def overridden (configured : LogSettings) (verbose : Option Bool) (level : Option String) :
    LogSettings :=
  ⟨level.getD configured.level, verbose.getD configured.verbose⟩

/-- What asks for nothing changes nothing. -/
@[simp] theorem overridden_none (s : LogSettings) : s.overridden none none = s := rfl

/-- Whether log records can be kept at a level that is asked for by name. The names that every
table answers for are taken, too. -/
def isUsable (level : String) : Bool :=
  level ∈ logLevels || (Entries.reserved? level).isSome

/-- Refuses a level that cannot be used. -/
def start (s : LogSettings) : Except Failure Unit :=
  if isUsable s.level then .ok ()
  else .error (.plain ("default level:" ++ s.level ++ " must be included in custom levels"))

end LogSettings

end VoiceControl
