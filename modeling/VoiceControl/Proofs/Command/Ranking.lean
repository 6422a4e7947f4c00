import VoiceControl.Proofs.Command.Order

/-!
# Registrations by rank

A registry is changed by registering commands, by removing the first registration of a command and
by clearing it. The roll of a history of such changes holds the registrations that still stand, in
the order in which they were made and stamped with it. The registry holds the commands of the roll
by rank, a higher priority first and an earlier registration first among equals, and dispatch
chooses the eligible registration of the first rank.

Placing a command among ranked ones keeps them ranked since its stamp is the newest. Removing is the
same in both orders since all registrations of one command have one priority, so the first of them
in either order is the earliest one.
-/

namespace VoiceControl

/-- A change of a registry. -/
inductive RegistryChange where
  | register (c : Command)
  | unregister (id : Nat)
  | clear

/-- The command that a change registers, if it does. -/
def RegistryChange.registered? : RegistryChange → Option Command
  | .register c => some c
  | _ => none

/-- A registration of a command, stamped with the number of registrations before it. -/
structure Registration where
  command : Command
  stamp : Nat

/-- The registrations that stand, in the order in which they were made. -/
structure RegistryRoll where
  standing : List Registration := []
  /-- The number of registrations so far. -/
  count : Nat := 0

namespace RegistryRoll

/-- The roll after a change. Of several registrations of a command the earliest is removed. -/
def after (h : RegistryRoll) : RegistryChange → RegistryRoll
  | .register c => { standing := h.standing ++ [⟨c, h.count⟩], count := h.count + 1 }
  | .unregister id => { h with standing := h.standing.eraseP (·.command.id == id) }
  | .clear => { h with standing := [] }

def run (h : RegistryRoll) (changes : List RegistryChange) : RegistryRoll := changes.foldl after h

end RegistryRoll

namespace Registry

def after (r : Registry) : RegistryChange → Registry
  | .register c => r.register c
  | .unregister id => (r.unregister id).2
  | .clear => r.clear

def run (r : Registry) (changes : List RegistryChange) : Registry := changes.foldl after r

end Registry

/-- Commands with ordinary priorities, where a command registered again has kept its priority. -/
structure Consistent (cs : List Command) : Prop where
  ranked : ∀ c ∈ cs, c.Ranked
  same : ∀ c ∈ cs, ∀ d ∈ cs, c.id = d.id → c.priority = d.priority

namespace Registration

/-! ## Ranks -/

/-- A registration is of an earlier rank than another one. -/
def Before (a b : Registration) : Prop :=
  b.command.priority.lt a.command.priority = true ∨
    b.command.priority = a.command.priority ∧ a.stamp < b.stamp

/-- Adds a registration behind those of the same or higher priority. -/
def place (g : Registration) : List Registration → List Registration
  | [] => [g]
  | d :: ds =>
      if d.command.priority.lt g.command.priority then g :: d :: ds else d :: place g ds

variable {g d : Registration} {ds : List Registration}

theorem map_place (g : Registration) (ds : List Registration) :
    (g.place ds).map (·.command) = Registry.place g.command (ds.map (·.command)) := by
  induction ds with
  | nil => rfl
  | cons d ds ih =>
      simp only [place, List.map_cons, Registry.place]
      split
      · rfl
      · rw [List.map_cons, ih]

theorem perm_place (g : Registration) (ds : List Registration) : (g.place ds).Perm (g :: ds) := by
  induction ds with
  | nil => rfl
  | cons d ds ih =>
      rw [place]
      split
      · rfl
      · exact (ih.cons d).trans (List.Perm.swap g d ds)

/-- A newer registration that is not of a higher priority comes after. -/
theorem before_of_newer (rankg : g.command.Ranked) (rankd : d.command.Ranked)
    (newer : d.stamp < g.stamp) (notBelow : d.command.priority.lt g.command.priority = false) :
    d.Before g := by
  obtain ⟨p, hp⟩ := rankg
  obtain ⟨q, hq⟩ := rankd
  unfold Before
  rw [hp, hq] at notBelow ⊢
  simp only [Number.lt, decide_eq_false_iff_not, decide_eq_true_eq] at notBelow ⊢
  by_cases below : p < q
  · exact .inl below
  · have equal : p = q := by grind
    exact .inr ⟨by rw [equal], newer⟩

/-- What comes after a registration of lower priority is of lower priority too. -/
theorem before_of_below {x : Registration} (rankg : g.command.Ranked) (rankd : d.command.Ranked)
    (rankx : x.command.Ranked) (below : d.command.priority.lt g.command.priority = true)
    (after : d.Before x) : g.Before x := by
  obtain ⟨p, hp⟩ := rankg
  obtain ⟨q, hq⟩ := rankd
  obtain ⟨r, hr⟩ := rankx
  refine .inl ?_
  unfold Before at after
  rw [hp, hq] at below
  rw [hq, hr] at after
  rw [hp, hr]
  simp only [Number.lt, decide_eq_true_eq] at below after ⊢
  rcases after with lower | ⟨equal, -⟩
  · grind
  · rw [Number.finite.inj equal]
    exact below

theorem Before.asymm (rankg : g.command.Ranked) (rankd : d.command.Ranked) (h : g.Before d) :
    ¬ d.Before g := by
  obtain ⟨p, hp⟩ := rankg
  obtain ⟨q, hq⟩ := rankd
  unfold Before at h ⊢
  rw [hp, hq] at h ⊢
  simp only [Number.lt, decide_eq_true_eq, Number.finite.injEq] at h ⊢
  grind

theorem pairwise_place (rank : g.command.Ranked) (ranks : ∀ d ∈ ds, d.command.Ranked)
    (newest : ∀ d ∈ ds, d.stamp < g.stamp) (h : ds.Pairwise Before) :
    (g.place ds).Pairwise Before := by
  induction ds with
  | nil => exact List.pairwise_singleton _ g
  | cons d ds ih =>
      obtain ⟨first, rest⟩ := List.pairwise_cons.1 h
      have rankd := ranks d List.mem_cons_self
      rw [place]
      split
      · rename_i below
        refine List.pairwise_cons.2 ⟨?_, h⟩
        intro x hx
        rcases List.mem_cons.1 hx with rfl | hx
        · exact .inl below
        · exact before_of_below rank rankd (ranks x (List.mem_cons_of_mem d hx)) below (first x hx)
      · rename_i notBelow
        refine List.pairwise_cons.2 ⟨?_, ?_⟩
        · intro x hx
          rcases List.mem_cons.1 ((perm_place g ds).mem_iff.1 hx) with rfl | hx
          · exact before_of_newer rank rankd (newest d List.mem_cons_self)
              (Bool.eq_false_iff.2 notBelow)
          · exact first x hx
        · exact ih (fun e he => ranks e (List.mem_cons_of_mem d he))
            (fun e he => newest e (List.mem_cons_of_mem d he)) rest

/-! ## Removal -/

/-- The first of some registrations in a list comes before the others of them. -/
theorem first_of_find? {R : Registration → Registration → Prop} {p : Registration → Bool}
    (order : ds.Pairwise R) (found : ds.find? p = some g) (mem : d ∈ ds) (holds : p d = true) :
    d = g ∨ R g d := by
  obtain ⟨-, before, after, rfl, none⟩ := List.find?_eq_some_iff_append.1 found
  rcases List.mem_append.1 mem with early | late
  · have not := none d early
    rw [holds] at not
    cases not
  · rcases List.mem_cons.1 late with same | late
    · exact .inl same
    · have tail := (List.pairwise_append.1 order).2.1
      exact .inr ((List.pairwise_cons.1 tail).1 d late)

/-- Removing the first of some registrations removes the one with its stamp. -/
theorem eraseP_eq_filter {p : Registration → Bool} (stamps : (ds.map (·.stamp)).Nodup)
    (found : ds.find? p = some g) : ds.eraseP p = ds.filter (·.stamp != g.stamp) := by
  obtain ⟨holds, before, after, rfl, none⟩ := List.find?_eq_some_iff_append.1 found
  rw [List.map_append, List.map_cons, List.nodup_append, List.nodup_cons] at stamps
  obtain ⟨-, ⟨later, -⟩, apart⟩ := stamps
  have kept (l : List Registration) (other : ∀ d ∈ l, d.stamp ≠ g.stamp) :
      l.filter (·.stamp != g.stamp) = l := by
    refine List.filter_eq_self.2 fun d hd => ?_
    simpa using other d hd
  rw [List.eraseP_append_right _ (by simpa using none), List.eraseP_cons_of_pos holds,
    List.filter_append, List.filter_cons_of_neg (by simp), kept before, kept after]
  · intro d hd same
    exact later (same ▸ List.mem_map_of_mem hd)
  · intro d hd
    exact apart d.stamp (List.mem_map_of_mem hd) g.stamp List.mem_cons_self

end Registration

namespace Registry

/-! ## Histories -/

/-- The registry holds the commands of a roll by rank; `cs` are the commands that were ever
registered. -/
structure Ranks (cs : List Command) (r : Registry) (h : RegistryRoll) : Prop where
  ranked : ∃ ranked : List Registration, ranked.Perm h.standing ∧
    ranked.Pairwise Registration.Before ∧ r.commands = ranked.map (·.command)
  stamps : h.standing.Pairwise fun g d => g.stamp < d.stamp
  bounded : ∀ g ∈ h.standing, g.stamp < h.count
  known : ∀ g ∈ h.standing, g.command ∈ cs

variable {cs : List Command} {r : Registry} {h : RegistryRoll}

theorem ranks_start (cs : List Command) : Ranks cs {} {} where
  ranked := ⟨[], .nil, .nil, rfl⟩
  stamps := .nil
  bounded _ hg := absurd hg List.not_mem_nil
  known _ hg := absurd hg List.not_mem_nil

theorem Ranks.register (consistent : Consistent cs) (ranks : Ranks cs r h) {c : Command}
    (mem : c ∈ cs) : Ranks cs (r.register c) (h.after (.register c)) := by
  obtain ⟨ranked, perm, order, commands⟩ := ranks.ranked
  have old {g : Registration} (hg : g ∈ ranked) : g ∈ h.standing := perm.mem_iff.1 hg
  have newest : ∀ g ∈ h.standing, g.stamp < h.count := ranks.bounded
  refine ⟨⟨Registration.place ⟨c, h.count⟩ ranked, ?_, ?_, ?_⟩, ?_, ?_, ?_⟩
  · exact (Registration.perm_place _ ranked).trans
      ((perm.cons _).trans (List.perm_append_singleton _ _).symm)
  · exact Registration.pairwise_place (consistent.ranked c mem)
      (fun g hg => consistent.ranked _ (ranks.known g (old hg)))
      (fun g hg => newest g (old hg)) order
  · rw [Registration.map_place, ← commands]
    rfl
  · refine List.pairwise_append.2 ⟨ranks.stamps, List.pairwise_singleton _ _, ?_⟩
    intro g hg d hd
    rw [List.mem_singleton.1 hd]
    exact newest g hg
  · intro g hg
    rcases List.mem_append.1 hg with hg | hg
    · exact Nat.lt_succ_of_lt (newest g hg)
    · rw [List.mem_singleton.1 hg]
      exact Nat.lt_succ_self h.count
  · intro g hg
    rcases List.mem_append.1 hg with hg | hg
    · exact ranks.known g hg
    · rw [List.mem_singleton.1 hg]
      exact mem

theorem nodup_stamps (stamps : h.standing.Pairwise fun g d => g.stamp < d.stamp) :
    (h.standing.map (·.stamp)).Nodup :=
  List.pairwise_map.2 (stamps.imp Nat.ne_of_lt)

/-- The first registration of a command by rank is the earliest one. -/
theorem Ranks.find?_eq (consistent : Consistent cs) (ranks : Ranks cs r h)
    {ranked : List Registration} (perm : ranked.Perm h.standing)
    (order : ranked.Pairwise Registration.Before) (id : Nat) :
    ranked.find? (·.command.id == id) = h.standing.find? (·.command.id == id) := by
  cases early : h.standing.find? (·.command.id == id) with
  | none =>
      rw [List.find?_eq_none] at early ⊢
      exact fun g hg => early g (perm.mem_iff.1 hg)
  | some g =>
      have idg := List.find?_some early
      have memg := List.mem_of_find?_eq_some early
      cases first : ranked.find? (·.command.id == id) with
      | none => exact absurd idg (List.find?_eq_none.1 first g (perm.mem_iff.2 memg))
      | some d =>
          have idd := List.find?_some first
          have memd := perm.mem_iff.1 (List.mem_of_find?_eq_some first)
          have same : d.command.priority = g.command.priority := by
            refine consistent.same _ (ranks.known d memd) _ (ranks.known g memg) ?_
            rw [beq_iff_eq] at idg idd
            rw [idd, idg]
          rcases Registration.first_of_find? ranks.stamps early memd idd with equal | later
          · rw [equal]
          rcases Registration.first_of_find? order first (perm.mem_iff.2 memg) idg with
            equal | lower | ⟨-, earlier⟩
          · rw [equal]
          · -- one of them would have to be of a lower priority than the other
            obtain ⟨q, hq⟩ := consistent.ranked _ (ranks.known d memd)
            rw [← same, hq] at lower
            simp [Number.lt] at lower
          · omega

theorem Ranks.unregister (consistent : Consistent cs) (ranks : Ranks cs r h) (id : Nat) :
    Ranks cs (r.unregister id).2 (h.after (.unregister id)) := by
  obtain ⟨ranked, perm, order, commands⟩ := ranks.ranked
  have kept := List.eraseP_sublist (l := h.standing) (p := (·.command.id == id))
  refine ⟨⟨ranked.eraseP (·.command.id == id), ?_, ?_, ?_⟩, ?_, ?_, ?_⟩
  · show (ranked.eraseP _).Perm (h.standing.eraseP _)
    have same := ranks.find?_eq consistent perm order id
    have stamps := nodup_stamps ranks.stamps
    cases early : h.standing.find? (·.command.id == id) with
    | none =>
        have nothing := List.find?_eq_none.1 early
        have nothing' := List.find?_eq_none.1 (same.trans early)
        rw [List.eraseP_of_forall_not nothing, List.eraseP_of_forall_not nothing']
        exact perm
    | some g =>
        rw [Registration.eraseP_eq_filter stamps early,
          Registration.eraseP_eq_filter ((perm.map _).nodup_iff.2 stamps) (same.trans early)]
        exact perm.filter _
  · exact order.sublist List.eraseP_sublist
  · show r.commands.eraseP _ = _
    rw [commands, List.eraseP_map]
    rfl
  · exact ranks.stamps.sublist kept
  · exact fun g hg => ranks.bounded g (kept.subset hg)
  · exact fun g hg => ranks.known g (kept.subset hg)

theorem Ranks.after (consistent : Consistent cs) (ranks : Ranks cs r h) {change : RegistryChange}
    (mem : ∀ c, change.registered? = some c → c ∈ cs) :
    Ranks cs (r.after change) (h.after change) := by
  cases change with
  | register c => exact ranks.register consistent (mem c rfl)
  | unregister id => exact ranks.unregister consistent id
  | clear =>
      exact ⟨⟨[], .nil, .nil, rfl⟩, .nil, fun _ hg => absurd hg List.not_mem_nil,
        fun _ hg => absurd hg List.not_mem_nil⟩

theorem Ranks.run (consistent : Consistent cs) (ranks : Ranks cs r h)
    {changes : List RegistryChange} (mem : ∀ c ∈ changes.filterMap (·.registered?), c ∈ cs) :
    Ranks cs (r.run changes) (h.run changes) := by
  induction changes generalizing r h with
  | nil => exact ranks
  | cons change changes ih =>
      have first : ∀ c, change.registered? = some c → c ∈ cs := fun c hc =>
        mem c (List.mem_filterMap.2 ⟨change, List.mem_cons_self, hc⟩)
      refine ih (ranks.after consistent first) fun c hc => mem c ?_
      obtain ⟨d, hd, registered⟩ := List.mem_filterMap.1 hc
      exact List.mem_filterMap.2 ⟨d, List.mem_cons_of_mem change hd, registered⟩

/-! ## Dispatch -/

/-- The registration of the first rank among the eligible ones. -/
def Chosen (h : RegistryRoll) (text : String) (enabledOnly : Bool) (g : Registration) : Prop :=
  g ∈ h.standing ∧ g.command.eligible text enabledOnly = true ∧
    ∀ d ∈ h.standing, d.command.eligible text enabledOnly = true → d = g ∨ g.Before d

theorem Ranks.findMatching_eq_none_iff (ranks : Ranks cs r h) (text : String) (enabledOnly : Bool) :
    (r.findMatching text enabledOnly).1 = none ↔
      ∀ g ∈ h.standing, g.command.eligible text enabledOnly = false := by
  obtain ⟨ranked, perm, -, commands⟩ := ranks.ranked
  rw [findMatching_fst, commands, List.find?_eq_none]
  constructor
  · intro none g hg
    exact Bool.eq_false_iff.2 (none _ (List.mem_map_of_mem (perm.mem_iff.2 hg)))
  · intro none c hc
    obtain ⟨g, hg, rfl⟩ := List.mem_map.1 hc
    exact Bool.eq_false_iff.1 (none g (perm.mem_iff.1 hg))

theorem Ranks.findMatching_eq_some_iff (consistent : Consistent cs) (ranks : Ranks cs r h)
    (text : String) (enabledOnly : Bool) (c : Command) :
    (r.findMatching text enabledOnly).1 = some c ↔
      ∃ g, Chosen h text enabledOnly g ∧ g.command = c := by
  obtain ⟨ranked, perm, order, commands⟩ := ranks.ranked
  rw [findMatching_fst, commands, List.find?_map, Option.map_eq_some_iff]
  have chosen {g : Registration}
      (found : ranked.find? ((·.eligible text enabledOnly) ∘ (·.command)) = some g) :
      Chosen h text enabledOnly g := by
    have eligible : g.command.eligible text enabledOnly = true := by
      simpa using List.find?_some found
    refine ⟨perm.mem_iff.1 (List.mem_of_find?_eq_some found), eligible, ?_⟩
    intro d hd eligible
    exact Registration.first_of_find? order found (perm.mem_iff.2 hd) eligible
  constructor
  · rintro ⟨g, found, rfl⟩
    exact ⟨g, chosen found, rfl⟩
  · rintro ⟨g, ⟨mem, eligible, first⟩, rfl⟩
    cases found : ranked.find? ((·.eligible text enabledOnly) ∘ (·.command)) with
    | none => exact absurd eligible (List.find?_eq_none.1 found g (perm.mem_iff.2 mem))
    | some d =>
        obtain ⟨memd, eligibled, firstd⟩ := chosen found
        -- two registrations cannot both be before each other
        rcases first d memd eligibled with rfl | after
        · exact ⟨d, rfl, rfl⟩
        rcases firstd g mem eligible with rfl | before
        · exact ⟨g, rfl, rfl⟩
        have rankg := consistent.ranked _ (ranks.known g mem)
        have rankd := consistent.ranked _ (ranks.known d memd)
        exact absurd before (after.asymm rankg rankd)

/-- After any history of changes, a registry lists the commands of the registrations that stand, a
higher priority first and an earlier registration first among equals. Removing a command says
whether a registration of it stands. And the command found for a text is that of the first of the
eligible registrations in this order, of which there is none exactly when none is found. -/
theorem run_dispatches_by_rank (changes : List RegistryChange)
    (consistent : Consistent (changes.filterMap (·.registered?))) :
    let r := ({} : Registry).run changes
    let h := ({} : RegistryRoll).run changes
    (∃ ranked : List Registration, ranked.Perm h.standing ∧
      ranked.Pairwise Registration.Before ∧ r.commands = ranked.map (·.command)) ∧
    (∀ id, (r.unregister id).1 = h.standing.any (·.command.id == id)) ∧
    ∀ text enabledOnly,
      ((r.findMatching text enabledOnly).1 = none ↔
        ∀ g ∈ h.standing, g.command.eligible text enabledOnly = false) ∧
      ∀ c, (r.findMatching text enabledOnly).1 = some c ↔
        ∃ g, Chosen h text enabledOnly g ∧ g.command = c := by
  intro r h
  have ranks : Ranks _ r h := (ranks_start _).run consistent fun c hc => hc
  refine ⟨ranks.ranked, fun id => ?_, fun text enabledOnly => ⟨?_, ?_⟩⟩
  · obtain ⟨ranked, perm, -, commands⟩ := ranks.ranked
    show r.commands.any _ = _
    rw [commands, List.any_map]
    exact perm.any_eq
  · exact ranks.findMatching_eq_none_iff text enabledOnly
  · exact ranks.findMatching_eq_some_iff consistent text enabledOnly

/-- A command that does nothing, of some identity and priority, that answers as told whether a text
is for it. -/
def idleCommand (id : Nat) (priority : Nat) (answer : Except Failure Bool) : Command where
  name := ""
  priority := .finite priority
  description := ""
  id := id
  accepts _ := answer
  execute _ := pure none

/-- A command registered before and after another of its priority keeps its later place when the
earlier one is removed, and a command of a higher priority that fails to tell is passed over. -/
theorem run_dispatches_to_later_registration :
    let twice := idleCommand 0 100 (.ok true)
    let other := idleCommand 1 100 (.ok true)
    let failing := idleCommand 2 200 (.error (.plain ""))
    let changes : List RegistryChange :=
      [.register twice, .register other, .register failing, .register twice, .unregister 0]
    let r := ({} : Registry).run changes
    Consistent (changes.filterMap (·.registered?)) ∧ (r.findMatching "go").1 = some other ∧
      (r.unregister 0).1 = true := by
  intro twice other failing changes r
  have consistent : Consistent [twice, other, failing, twice] := by
    refine ⟨fun c hc => ?_, fun c hc d hd same => ?_⟩
    · simp only [List.mem_cons, List.not_mem_nil, or_false] at hc
      rcases hc with rfl | rfl | rfl | rfl <;> exact ⟨_, rfl⟩
    · simp only [List.mem_cons, List.not_mem_nil, or_false] at hc hd
      rcases hc with rfl | rfl | rfl | rfl <;> rcases hd with rfl | rfl | rfl | rfl <;>
        first | rfl | exact absurd same (by decide)
  obtain ⟨-, removed, found⟩ := run_dispatches_by_rank changes consistent
  have standing : (({} : RegistryRoll).run changes).standing =
      [⟨other, 1⟩, ⟨failing, 2⟩, ⟨twice, 3⟩] := rfl
  refine ⟨consistent, ?_, (removed 0).trans rfl⟩
  refine ((found "go" true).2 other).2 ⟨⟨other, 1⟩, ⟨?_, rfl, ?_⟩, rfl⟩
  · rw [standing]
    exact List.mem_cons_self
  · intro d hd eligible
    rw [standing] at hd
    simp only [List.mem_cons, List.not_mem_nil, or_false] at hd
    rcases hd with rfl | rfl | rfl
    · exact .inl rfl
    · cases eligible
    · exact .inr (.inr ⟨rfl, by decide⟩)

end Registry

end VoiceControl
