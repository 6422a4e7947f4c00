/-!
# Options of a command line

Which options there are and how they are read. Options may stand anywhere before `--`; letters may
be grouped behind one dash, and a value may follow its option directly. What follows the first
option that is not known is left to the reader of a subcommand, but known options are taken out of
it.
-/

namespace VoiceControl

namespace CommandLine

/-- What an option sets. -/
inductive Switch where
  | version
  | help
  | verbose
  | logLevel
  | directory
  | json
  | typeUnmatched
  | init
  deriving Repr, DecidableEq

/-- An option: its letter, its word, and what its value is called if it takes one. -/
structure Rule where
  switch : Switch
  letter : Option Char
  word : String
  value : Option String
  deriving Repr, DecidableEq

namespace Rule

/-- The word form of an option. -/
def long (o : Rule) : String := "--" ++ o.word

/-- How an option is written in messages. -/
def display (o : Rule) : String :=
  (match o.letter with
    | some c => String.ofList ['-', c, ',', ' ']
    | none => "") ++ o.long ++
  match o.value with
  | some v => " <" ++ v ++ ">"
  | none => ""

/-- Whether an argument is an option by itself. -/
def isSpelled (o : Rule) (argument : List Char) : Bool :=
  argument = o.long.toList || o.letter.any fun c => argument = ['-', c]

end Rule

/-- The options that may stand anywhere. -/
def commonRules : List Rule :=
  [⟨.version, some 'V', "version", none⟩, ⟨.verbose, some 'v', "verbose", none⟩,
    ⟨.logLevel, none, "log-level", some "level"⟩]

def directoryRule : Rule := ⟨.directory, some 'd', "dir", some "directory"⟩

def jsonRule : Rule := ⟨.json, none, "json", none⟩

/-- Why reading options ends early. -/
inductive Halt where
  /-- The version is asked for. -/
  | version
  /-- An option lacks its value. -/
  | valueMissing (option : Rule)
  deriving Repr, DecidableEq

/-- What arguments come to: the options that are set, in order, the operands, and everything from
the first unknown option on. -/
structure Reading where
  settings : List (Switch × String) := []
  operands : List (List Char) := []
  unknown : List (List Char) := []
  deriving Repr, DecidableEq

namespace Reading

/-- Adds an option in front. -/
def set (o : Rule) (value : List Char) (r : Reading) : Reading :=
  { r with settings := (o.switch, String.ofList value) :: r.settings }

/-- Adds an argument in front, behind an unknown option or not. -/
def add (afterUnknown : Bool) (argument : List Char) (r : Reading) : Reading :=
  if afterUnknown then { r with unknown := argument :: r.unknown }
  else { r with operands := argument :: r.operands }

end Reading

/-- What an argument begins with, as far as options go. -/
inductive Lead where
  /-- The end of all options. -/
  | terminator
  /-- A whole option. -/
  | exact (o : Rule)
  /-- A known letter in front of other characters. -/
  | grouped (o : Rule) (rest : List Char)
  /-- A known word with its value behind an equals sign. -/
  | assigned (o : Rule) (value : List Char)
  /-- An option that is not known. -/
  | unknown
  | operand

/-- Sorts an argument. -/
def lead (rules : List Rule) (argument : List Char) : Lead :=
  match argument with
  | ['-', '-'] => .terminator
  | '-' :: c :: rest =>
      match rules.find? (·.isSpelled argument) with
      | some o => .exact o
      | none =>
          match if c != '-' && !rest.isEmpty then rules.find? (·.letter = some c) else none with
          | some o => .grouped o rest
          | none =>
              let word := argument.takeWhile (· != '=')
              let value := argument.dropWhile (· != '=')
              match
                if c = '-' ∧ word.length > 2 ∧ !value.isEmpty then
                  rules.find? fun o => o.long.toList = word && o.value.isSome
                else none with
              | some o => .assigned o value.tail
              | none => .unknown
  | _ => .operand

/-- A group of letters is longer than what is left of it. -/
theorem length_of_lead_grouped {rules : List Rule} {argument rest : List Char} {o : Rule}
    (h : lead rules argument = .grouped o rest) : argument.length = rest.length + 2 := by
  unfold lead at h
  split at h
  · cases h
  · split at h
    · cases h
    · split at h
      · cases h
        rfl
      · dsimp only at h
        split at h <;> cases h
  · cases h

/-- Takes a setting unless it asks for the version. -/
def take (o : Rule) (value : List Char) (r : Except Halt Reading) : Except Halt Reading :=
  if o.switch = .version then .error .version else (·.set o value) <$> r

/-- How much there is to read. -/
def weight : List (List Char) → Nat
  | [] => 0
  | argument :: more => argument.length + 1 + weight more

/-- Reads arguments by rules. -/
def scan (rules : List Rule) (afterUnknown : Bool) : List (List Char) → Except Halt Reading
  | [] => .ok {}
  | argument :: more =>
      match _ : lead rules argument with
      | .terminator =>
          .ok (if afterUnknown then { unknown := argument :: more } else { operands := more })
      | .exact o =>
          match o.value, more with
          | none, more => take o [] (scan rules afterUnknown more)
          | some _, [] => .error (.valueMissing o)
          | some _, value :: more => take o value (scan rules afterUnknown more)
      | .grouped o rest =>
          match o.value with
          | some _ => take o rest (scan rules afterUnknown more)
          | none => take o [] (scan rules afterUnknown (('-' :: rest) :: more))
      | .assigned o value => take o value (scan rules afterUnknown more)
      | .unknown => (·.add true argument) <$> scan rules true more
      | .operand => (·.add afterUnknown argument) <$> scan rules afterUnknown more
  termination_by arguments => weight arguments
  decreasing_by
    all_goals simp only [weight, List.length_cons]
    all_goals
      first
      | omega
      | have := length_of_lead_grouped ‹_›
        omega

end CommandLine

end VoiceControl
