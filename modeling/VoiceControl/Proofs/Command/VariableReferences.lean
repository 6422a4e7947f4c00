import Mathlib.Data.List.TakeDrop
import Mathlib.Data.List.TakeWhile
import VoiceControl.Command.Custom
import VoiceControl.Proofs.Text.WordPhrases

/-!
# References to variables in paths

A path is scanned from the left. Where a reference to a variable stands in front, it is taken as a
whole; any other character is taken as it is. A scan is fixed by the path alone, so what is put in
the place of a reference is never scanned itself.

A reference to a variable that is not set is to stay as it is written. It does, unless the name is
one of those that every table answers for.

* `VariableReference.Leads`: a reference stands in front; at most one does, `Leads.unique`.
* `expandFrom_of_scanned`: what is made of a scan, piece by piece.
* `expand_literal_iff`: when that is what is said of references.
-/

namespace VoiceControl

open VoiceControl.Text

/-- How a reference to a variable is written: `${NAME}`, `$NAME` or `%NAME%`. -/
inductive ReferenceForm where
  | braced
  | bare
  | percent

/-- A reference to a variable. -/
structure VariableReference where
  form : ReferenceForm
  name : List Char
  lettered : Lettered name

namespace VariableReference

/-- The variable that is referred to. -/
def variableName (r : VariableReference) : String := String.ofList r.name

/-- A reference as it is written. -/
def written (r : VariableReference) : List Char :=
  match r.form with
  | .braced => '$' :: '\x7b' :: (r.name ++ ['\x7d'])
  | .bare => '$' :: r.name
  | .percent => '%' :: (r.name ++ ['%'])

/-- A reference stands in front of the rest of a text. A bare name goes on as long as it can. -/
structure Leads (r : VariableReference) (s rest : List Char) : Prop where
  eq_append : s = r.written ++ rest
  longest : r.form = .bare → ∀ c ∈ rest.head?, isWordChar c = false

/-- A reference with a text put in its place, if there is one. -/
def replacedBy (r : VariableReference) (value : Option String) : List Char :=
  match value with
  | some v => v.toList
  | none => r.written

/-- The variable is set, or its name is not one that every table answers for. -/
def Settled (r : VariableReference) (environment : Environment) : Prop :=
  Entries.has r.variableName environment = true ∨ Entries.reserved? r.variableName = none

end VariableReference

/-- A piece of a path. -/
inductive PathPiece where
  | reference (r : VariableReference)
  | literal (c : Char)

namespace PathPiece

/-- A piece as it is written. -/
def written : PathPiece → List Char
  | .reference r => r.written
  | .literal c => [c]

/-- A piece with the value of the variable in the place of a reference; a reference to a variable
that is not set is left as it is written. -/
def filled (environment : Environment) : PathPiece → List Char
  | .reference r => r.replacedBy (Entries.get? r.variableName environment)
  | .literal c => [c]

/-- A piece with what the table answers in the place of a reference. -/
def answered (environment : Environment) : PathPiece → List Char
  | .reference r => r.replacedBy (Entries.answer? r.variableName environment)
  | .literal c => [c]

end PathPiece

/-- The pieces of a text, scanned from the left. -/
inductive Scanned : List Char → List PathPiece → Prop
  | nil : Scanned [] []
  | reference {r : VariableReference} {s rest : List Char} {ps : List PathPiece}
      (leads : r.Leads s rest) (more : Scanned rest ps) : Scanned s (.reference r :: ps)
  | literal {c : Char} {s : List Char} {ps : List PathPiece}
      (none_ : ∀ r rest, ¬ VariableReference.Leads r (c :: s) rest) (more : Scanned s ps) :
      Scanned (c :: s) (.literal c :: ps)

namespace EnvironmentReference

variable {s rest a b : List Char}

/-! ## The reference in front -/

/-- A run of characters of words ends where another character comes or the text ends. -/
theorem span_isWordChar_iff : s.span isWordChar = (a, b) ↔
    s = a ++ b ∧ (∀ c ∈ a, isWordChar c = true) ∧ ∀ c ∈ b.head?, isWordChar c = false := by
  rw [List.span_eq_takeWhile_dropWhile, Prod.mk.injEq]
  constructor
  · rintro ⟨rfl, rfl⟩
    refine ⟨List.takeWhile_append_dropWhile.symm, fun c hc => List.mem_takeWhile_imp hc,
      fun c hc => ?_⟩
    have stop := List.head?_dropWhile_not isWordChar s
    rw [Option.mem_def.1 hc] at stop
    simpa using stop
  · rintro ⟨rfl, inside, outside⟩
    have none_ : b.takeWhile isWordChar = [] ∧ b.dropWhile isWordChar = b := by
      cases b with
      | nil => exact ⟨rfl, rfl⟩
      | cons c b =>
          have other := outside c rfl
          simp [other]
    rw [List.takeWhile_append_of_pos inside, List.dropWhile_append_of_pos inside, none_.1, none_.2]
    exact ⟨List.append_nil a, rfl⟩

theorem ends_of_cons {c : Char} (other : isWordChar c = false) :
    ∀ d ∈ (c :: rest).head?, isWordChar d = false := by
  intro d hd
  obtain rfl := Option.some.inj hd
  exact other

/-- The characters of a name are read up to where it ends. -/
theorem span_name (r : VariableReference) (rest : List Char)
    (ends : ∀ c ∈ rest.head?, isWordChar c = false) :
    (r.name ++ rest).span isWordChar = (r.name, rest) :=
  span_isWordChar_iff.2 ⟨rfl, r.lettered.letters, ends⟩

/-- A reference in front is found. -/
theorem atStart?_of_leads {r : VariableReference} (leads : r.Leads s rest) :
    atStart? s = some (r.variableName, r.written.length) := by
  obtain ⟨rfl, longest⟩ := leads
  obtain ⟨form, name, lettered⟩ := r
  obtain ⟨c, more, rfl⟩ := List.exists_cons_of_ne_nil lettered.ne
  cases form with
  | braced =>
      have read := span_name ⟨.braced, c :: more, lettered⟩ ('\x7d' :: rest)
        (ends_of_cons (by decide))
      simp only [VariableReference.written, List.cons_append, List.append_assoc,
        List.nil_append] at read ⊢
      simp only [atStart?, read]
      exact congrArg some (Prod.ext rfl (by simp))
  | bare =>
      have read := span_name ⟨.bare, c :: more, lettered⟩ rest (longest rfl)
      have unbraced : c ≠ '\x7b' := by
        rintro rfl
        exact absurd (lettered.letters _ List.mem_cons_self) (by decide)
      simp only [VariableReference.written, List.cons_append] at read ⊢
      rw [atStart?]
      · dsimp only
        rw [read]
        rfl
      · intro t braced
        exact unbraced (List.cons.inj braced).1
  | percent =>
      have read := span_name ⟨.percent, c :: more, lettered⟩ ('%' :: rest)
        (ends_of_cons (by decide))
      simp only [VariableReference.written, List.cons_append, List.append_assoc,
        List.nil_append] at read ⊢
      simp only [atStart?, read]
      exact congrArg some (Prod.ext rfl (by simp))

/-- What is found is a reference in front. -/
theorem exists_leads_of_atStart? {x : String} {n : Nat} (found : atStart? s = some (x, n)) :
    ∃ r rest, VariableReference.Leads r s rest ∧ x = r.variableName ∧ n = r.written.length := by
  unfold atStart? at found
  dsimp only at found
  split at found
  · -- `${NAME}`
    rename_i t
    split at found
    · rename_i c name rest read
      obtain ⟨rfl, letters, -⟩ := span_isWordChar_iff.1 read
      obtain ⟨rfl, rfl⟩ := Prod.mk.inj (Option.some.inj found)
      refine ⟨⟨.braced, c :: name, List.cons_ne_nil _ _, letters⟩, rest, ⟨?_, nofun⟩, rfl, ?_⟩
      · simp [VariableReference.written]
      · simp [VariableReference.written]
    · cases found
  · -- `$NAME`
    rename_i t _
    split at found
    · cases found
    · rename_i name rest ne read
      obtain ⟨rfl, letters, ends⟩ := span_isWordChar_iff.1 read
      obtain ⟨rfl, rfl⟩ := Prod.mk.inj (Option.some.inj found)
      refine ⟨⟨.bare, name, ?_, letters⟩, rest, ⟨rfl, fun _ => ends⟩, rfl, rfl⟩
      rintro rfl
      exact ne rfl
  · -- `%NAME%`
    rename_i t
    split at found
    · rename_i c name rest read
      obtain ⟨rfl, letters, -⟩ := span_isWordChar_iff.1 read
      obtain ⟨rfl, rfl⟩ := Prod.mk.inj (Option.some.inj found)
      refine ⟨⟨.percent, c :: name, List.cons_ne_nil _ _, letters⟩, rest, ⟨?_, nofun⟩, rfl, ?_⟩
      · simp [VariableReference.written]
      · simp [VariableReference.written]
    · cases found
  · cases found

theorem atStart?_eq_none_iff :
    atStart? s = none ↔ ∀ r rest, ¬ VariableReference.Leads r s rest := by
  constructor
  · intro missing r rest leads
    rw [atStart?_of_leads leads] at missing
    cases missing
  · intro none_
    rw [Option.eq_none_iff_forall_not_mem]
    rintro ⟨x, n⟩ found
    obtain ⟨r, rest, leads, -, -⟩ := exists_leads_of_atStart? found
    exact none_ r rest leads

end EnvironmentReference

namespace VariableReference

open EnvironmentReference

variable {r q : VariableReference} {s rest other : List Char}

theorem length_written (r : VariableReference) :
    r.written.length = r.name.length + match r.form with
      | .braced => 3
      | .bare => 1
      | .percent => 2 := by
  obtain ⟨form, name, -⟩ := r
  cases form <;> simp [written]

/-- At most one reference stands in front, with one rest. -/
theorem Leads.unique (h : r.Leads s rest) (h' : q.Leads s other) : r = q ∧ rest = other := by
  have found := (atStart?_of_leads h).symm.trans (atStart?_of_leads h')
  obtain ⟨names, lengths⟩ := Prod.mk.inj (Option.some.inj found)
  have same : r.name = q.name := String.ofList_injective names
  rw [length_written, length_written, same] at lengths
  obtain ⟨form, name, lettered⟩ := r
  obtain ⟨form', name', lettered'⟩ := q
  obtain rfl : name = name' := same
  obtain rfl : form = form' := by
    cases form <;> cases form' <;> first | rfl | (dsimp only at lengths; omega)
  refine ⟨rfl, List.append_cancel_left (h.eq_append.symm.trans h'.eq_append)⟩

theorem written_ne_nil (r : VariableReference) : r.written ≠ [] := by
  obtain ⟨form, name, -⟩ := r
  cases form <;> exact List.cons_ne_nil _ _

end VariableReference

/-! ## Scans -/

namespace Scanned

variable {s : List Char} {ps qs : List PathPiece}

/-- Every text has a scan. -/
theorem exists_scanned (s : List Char) : ∃ ps, Scanned s ps := by
  -- what is behind a reference or a character is shorter
  induction size : s.length using Nat.strongRecOn generalizing s with
  | ind n ih =>
      subst size
      by_cases found : ∃ r rest, VariableReference.Leads r s rest
      · obtain ⟨r, rest, leads⟩ := found
        have shorter : rest.length < s.length := by
          have written := List.length_pos_iff.2 r.written_ne_nil
          rw [leads.eq_append, List.length_append]
          omega
        obtain ⟨ps, more⟩ := ih _ shorter rest rfl
        exact ⟨_, .reference leads more⟩
      · cases s with
        | nil => exact ⟨[], .nil⟩
        | cons c s =>
            obtain ⟨ps, more⟩ := ih _ (Nat.lt_succ_self _) s rfl
            exact ⟨_, .literal (fun r rest leads => found ⟨r, rest, leads⟩) more⟩

theorem not_leads_nil (r : VariableReference) (rest : List Char) : ¬ r.Leads [] rest :=
  fun leads => r.written_ne_nil (List.append_eq_nil_iff.1 leads.eq_append.symm).1

/-- A text has no other scan. -/
theorem unique (h : Scanned s ps) (h' : Scanned s qs) : ps = qs := by
  induction h generalizing qs with
  | nil =>
      cases h' with
      | nil => rfl
      | reference leads _ => exact absurd leads (not_leads_nil _ _)
  | reference leads _ ih =>
      cases h' with
      | nil => exact absurd leads (not_leads_nil _ _)
      | reference leads' more' =>
          obtain ⟨rfl, rfl⟩ := leads.unique leads'
          rw [ih more']
      | literal none_ _ => exact absurd leads (none_ _ _)
  | literal none_ _ ih =>
      cases h' with
      | reference leads _ => exact absurd leads (none_ _ _)
      | literal _ more' => rw [ih more']

/-- The pieces of a scan are the text. -/
theorem flatMap_written (h : Scanned s ps) : ps.flatMap PathPiece.written = s := by
  induction h with
  | nil => rfl
  | reference leads _ ih =>
      rw [List.flatMap_cons, ih]
      exact leads.eq_append.symm
  | literal _ _ ih =>
      rw [List.flatMap_cons, ih]
      rfl

/-- Without the signs that references start with, a text is read character by character. -/
theorem literals (plain : ∀ c ∈ s, c ≠ '$' ∧ c ≠ '%') : Scanned s (s.map .literal) := by
  induction s with
  | nil => exact .nil
  | cons c s ih =>
      obtain ⟨here, later⟩ := List.forall_mem_cons.1 plain
      refine .literal (fun r rest leads => ?_) (ih later)
      have starts := leads.eq_append
      obtain ⟨form, name, lettered⟩ := r
      cases form with
      | percent => exact here.2 (List.cons.inj starts).1
      | braced | bare => exact here.1 (List.cons.inj starts).1

end Scanned

namespace EnvironmentReference

variable {environment : Environment} {s rest : List Char} {ps : List PathPiece}

/-! ## Expanding a scan -/

/-- What belongs to the reference before is passed over, and is left out if that is asked for. -/
theorem expandFrom_length (environment : Environment) (drop : Bool) (p rest : List Char) :
    expandFrom environment p.length drop (p ++ rest) =
      (if drop then [] else p) ++ expandFrom environment 0 false rest := by
  induction p with
  | nil => cases drop <;> cases rest <;> rfl
  | cons c p ih =>
      rw [List.length_cons, List.cons_append, expandFrom, ih]
      cases drop <;> rfl

theorem expandFrom_of_leads {r : VariableReference} (leads : r.Leads s rest) :
    expandFrom environment 0 false s =
      PathPiece.answered environment (.reference r) ++ expandFrom environment 0 false rest := by
  obtain ⟨c, p, written⟩ := List.exists_cons_of_ne_nil r.written_ne_nil
  have found := atStart?_of_leads leads
  rw [written, List.length_cons] at found
  obtain rfl : s = c :: (p ++ rest) := by rw [leads.eq_append, written, List.cons_append]
  rw [expandFrom, found, PathPiece.answered]
  dsimp only
  rw [Nat.add_sub_cancel]
  cases Entries.answer? r.variableName environment with
  | none =>
      dsimp only
      rw [expandFrom_length, VariableReference.replacedBy, written]
      rfl
  | some v =>
      dsimp only
      rw [expandFrom_length]
      rfl

/-- Expanding a text puts the answers in the place of the references of its scan. -/
theorem expandFrom_of_scanned (h : Scanned s ps) :
    expandFrom environment 0 false s = ps.flatMap (PathPiece.answered environment) := by
  induction h with
  | nil => rfl
  | reference leads _ ih => rw [expandFrom_of_leads leads, ih, List.flatMap_cons]
  | literal none_ _ ih =>
      rw [expandFrom, atStart?_eq_none_iff.2 none_]
      dsimp only
      rw [ih, List.flatMap_cons]
      rfl

/-! ## Names that every table answers for -/

/-- What every table answers is longer than any reference to the name. -/
theorem length_of_reserved? {name value : String} (h : Entries.reserved? name = some value) :
    name.length + 3 < value.length := by
  unfold Entries.reserved? at h
  split at h
  · obtain rfl := Option.some.inj h
    simp only [Entries.operationText, String.length_append]
    have around : "function ".length + "() \x7b [native code] \x7d".length = 29 := by decide
    omega
  · split at h
    · obtain rfl := Option.some.inj h
      subst name
      decide
    · split at h
      · obtain rfl := Option.some.inj h
        subst name
        decide
      · cases h

theorem answered_of_settled {r : VariableReference} (settled : r.Settled environment) :
    PathPiece.answered environment (.reference r) = PathPiece.filled environment (.reference r) := by
  have same : Entries.answer? r.variableName environment =
      Entries.get? r.variableName environment := by
    cases set : Entries.get? r.variableName environment with
    | some v => exact Entries.answer?_of_get? set
    | none =>
        rw [Entries.answer?_of_absent set]
        refine settled.resolve_left ?_
        simp [Entries.has, set]
  rw [PathPiece.answered, PathPiece.filled, same]

/-- A reference that stays as it is written is not as long as what every table answers. -/
theorem length_filled_lt {r : VariableReference} (unsettled : ¬ r.Settled environment) :
    (PathPiece.filled environment (.reference r)).length <
      (PathPiece.answered environment (.reference r)).length := by
  obtain ⟨unset, reserved⟩ := not_or.1 unsettled
  have absent : Entries.get? r.variableName environment = none := by
    simpa [Entries.has] using unset
  obtain ⟨v, answer⟩ := Option.ne_none_iff_exists'.1 reserved
  have longer := length_of_reserved? answer
  have name : r.variableName.length = r.name.length := String.length_ofList
  have written : r.written.length ≤ r.name.length + 3 := by
    rw [VariableReference.length_written]
    cases r.form <;> simp
  rw [PathPiece.filled, PathPiece.answered, absent, Entries.answer?_of_absent absent, answer]
  show r.written.length < v.toList.length
  rw [String.length_toList]
  omega

theorem length_filled_le (environment : Environment) (p : PathPiece) :
    (p.filled environment).length ≤ (p.answered environment).length := by
  cases p with
  | literal c => exact Nat.le_refl _
  | reference r =>
      by_cases settled : r.Settled environment
      · rw [answered_of_settled settled]
      · exact Nat.le_of_lt (length_filled_lt settled)

theorem length_flatMap_filled_le (environment : Environment) (ps : List PathPiece) :
    (ps.flatMap (PathPiece.filled environment)).length ≤
      (ps.flatMap (PathPiece.answered environment)).length := by
  induction ps with
  | nil => exact Nat.le_refl _
  | cons p ps ih =>
      rw [List.flatMap_cons, List.flatMap_cons, List.length_append, List.length_append]
      exact Nat.add_le_add (length_filled_le environment p) ih

/-- Nothing but values is put in the place of references exactly if every reference is settled: what
is too long in one place is not made good in another. -/
theorem flatMap_answered_eq_iff : ps.flatMap (PathPiece.answered environment) =
    ps.flatMap (PathPiece.filled environment) ↔
      ∀ r, .reference r ∈ ps → r.Settled environment := by
  constructor
  · intro same r mem
    by_contra unsettled
    obtain ⟨before, after, rfl⟩ := List.append_of_mem mem
    have lengths := congrArg List.length same
    simp only [List.flatMap_append, List.flatMap_cons, List.length_append] at lengths
    have front := length_flatMap_filled_le environment before
    have back := length_flatMap_filled_le environment after
    have here := length_filled_lt unsettled
    omega
  · intro settled
    refine List.flatMap_congr fun p mem => ?_
    cases p with
    | literal c => rfl
    | reference r => exact answered_of_settled (settled r mem)

theorem expand_eq (environment : Environment) {path : String} (h : Scanned path.toList ps) :
    expand environment path = String.ofList (ps.flatMap (PathPiece.answered environment)) :=
  congrArg String.ofList (expandFrom_of_scanned h)

/-- Without a variable that is set, the pieces are to stay as they are written. -/
theorem flatMap_filled_of_unset
    (unset : ∀ r, .reference r ∈ ps → Entries.get? r.variableName environment = none) :
    ps.flatMap (PathPiece.filled environment) = ps.flatMap PathPiece.written := by
  refine List.flatMap_congr fun p mem => ?_
  cases p with
  | literal c => rfl
  | reference r =>
      rw [PathPiece.filled, unset r mem]
      rfl

/-- A path has one scan from the left. Expanding it puts the values of the variables that are set in
the place of their references, as they are, and leaves everything else as it is written, exactly if
no reference names something that is not set but that every table answers for. In particular, where
no variable that is referred to is set, the path stays as it is exactly if there is no such name. -/
theorem expand_literal_iff (environment : Environment) (path : String) :
    ∃ ps, Scanned path.toList ps ∧ (∀ qs, Scanned path.toList qs → qs = ps) ∧
      (expand environment path = String.ofList (ps.flatMap (PathPiece.filled environment)) ↔
        ∀ r, .reference r ∈ ps → r.Settled environment) ∧
      ((∀ r, .reference r ∈ ps → Entries.get? r.variableName environment = none) →
        (expand environment path = path ↔
          ∀ r, .reference r ∈ ps → Entries.reserved? r.variableName = none)) := by
  obtain ⟨ps, scanned⟩ := Scanned.exists_scanned path.toList
  have literal : expand environment path =
      String.ofList (ps.flatMap (PathPiece.filled environment)) ↔
        ∀ r, .reference r ∈ ps → r.Settled environment := by
    rw [expand_eq environment scanned, String.ofList_inj]
    exact flatMap_answered_eq_iff
  refine ⟨ps, scanned, fun qs other => other.unique scanned, literal, fun unset => ?_⟩
  rw [flatMap_filled_of_unset unset, scanned.flatMap_written, String.ofList_toList] at literal
  refine literal.trans (forall₂_congr fun r mem => or_iff_right ?_)
  simp [Entries.has, unset r mem]

/-- The value of the one variable that is set looks like a reference itself and is put in as it
is. -/
theorem expand_literal_home :
    let environment : Environment := [("HOME", "$A"), ("A", "1")]
    expand environment "$\x7bHOME\x7d%TMP%/" = "$A%TMP%/" := by
  intro environment
  obtain ⟨ps, -, unique, literal, -⟩ :=
    expand_literal_iff environment "$\x7bHOME\x7d%TMP%/"
  have scanned : Scanned "$\x7bHOME\x7d%TMP%/".toList
      [.reference ⟨.braced, "HOME".toList, by decide⟩, .reference ⟨.percent, "TMP".toList, by decide⟩,
        .literal '/'] :=
    .reference ⟨rfl, nofun⟩ (.reference ⟨rfl, nofun⟩
      (.literals (s := ['/']) (List.forall_mem_singleton.2 (by decide))))
  obtain rfl := unique _ scanned
  refine literal.2 fun r mem => ?_
  have either : r = ⟨.braced, "HOME".toList, by decide⟩ ∨ r = ⟨.percent, "TMP".toList, by decide⟩ := by
    simpa using mem
  rcases either with rfl | rfl
  · exact .inl rfl
  · exact .inr rfl

/-- No variable is set, and still a reference is replaced. -/
theorem expand_constructor_unset :
    (∃ ps, Scanned "$constructor/run.sh".toList ps ∧
      ∀ r, .reference r ∈ ps → Entries.get? r.variableName ([] : Environment) = none) ∧
    expand [] "$constructor/run.sh" = "function Object() \x7b [native code] \x7d/run.sh" ∧
    expand [] "$constructor/run.sh" ≠ "$constructor/run.sh" := by
  obtain ⟨ps, scanned⟩ := Scanned.exists_scanned "$constructor/run.sh".toList
  have expanded : expand [] "$constructor/run.sh" =
      "function Object() \x7b [native code] \x7d/run.sh" := rfl
  refine ⟨⟨ps, scanned, fun _ _ => rfl⟩, expanded, ?_⟩
  rw [expanded]
  decide

end EnvironmentReference

end VoiceControl
