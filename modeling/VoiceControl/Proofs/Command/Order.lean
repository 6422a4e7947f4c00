import VoiceControl.Command.Registry

/-!
# The order of dispatch

Registering keeps the commands in descending order of priority. So a command takes an utterance
that it accepts if no other command of the same or a higher priority accepts it, whatever the order
in which they were registered. The commands of the highest priority come first, in the order in
which they were registered, and the others are ordered among themselves.
-/

namespace VoiceControl

theorem Number.lt_irrefl (a : Number) : a.lt a = false := by
  cases a with
  | finite q => exact decide_eq_false Rat.lt_irrefl
  | infinite up => cases up <;> rfl
  | nan => rfl

theorem Number.lt_asymm {a b : Number} (h : a.lt b = true) : b.lt a = false := by
  cases a with
  | finite q =>
      cases b with
      | finite r =>
          have less : q < r := of_decide_eq_true h
          exact decide_eq_false (Rat.not_lt.2 (Rat.le_of_lt less))
      | infinite up => cases up <;> first | rfl | cases h
      | nan => rfl
  | infinite up =>
      cases b with
      | finite r => cases up <;> first | rfl | cases h
      | infinite up' => cases up <;> cases up' <;> first | rfl | cases h
      | nan => rfl
  | nan => cases h

/-- The priority of a command is an ordinary value. -/
def Command.Ranked (c : Command) : Prop := ∃ q, c.priority = .finite q

/-- Whether a command may be chosen for a text: it accepts the text, and it is switched on where
that is required. A command that fails to tell may not. -/
def Command.eligible (c : Command) (text : String) (enabledOnly : Bool) : Bool :=
  (!enabledOnly || c.enabled) &&
    match c.accepts text with
    | .ok accepted => accepted
    | .error _ => false

namespace Registry

/-! ## The command found -/

theorem firstAccepting_fst (text : String) (cs : List Command) :
    (firstAccepting text cs).1 = cs.find? (·.eligible text false) := by
  induction cs with
  | nil => rfl
  | cons c cs ih =>
      rw [firstAccepting, List.find?_cons]
      cases accepts : c.accepts text with
      | error f => simpa [Command.eligible, accepts] using ih
      | ok accepted => cases accepted <;> simp [Command.eligible, accepts, ih]

/-- The command found is the first eligible one. -/
theorem findMatching_fst (r : Registry) (text : String) (enabledOnly : Bool) :
    (r.findMatching text enabledOnly).1 = r.commands.find? (·.eligible text enabledOnly) := by
  rw [findMatching, firstAccepting_fst, list]
  cases enabledOnly with
  | false => rfl
  | true =>
      rw [if_pos rfl, List.find?_filter]
      refine congrArg (List.find? · r.commands) (funext fun c => ?_)
      cases enabled : c.enabled <;> simp [Command.eligible, enabled]

/-! ## Priorities -/

/-- Descending order of priority. -/
def Descending (cs : List Command) : Prop :=
  cs.Pairwise fun c d => c.priority.lt d.priority = false

theorem mem_place {c d : Command} {cs : List Command} : d ∈ place c cs ↔ d = c ∨ d ∈ cs := by
  induction cs with
  | nil => simp [place]
  | cons b cs ih =>
      rw [place]
      split
      · simp
      · rw [List.mem_cons, ih, List.mem_cons]
        constructor
        · rintro (h | h | h)
          · exact .inr (.inl h)
          · exact .inl h
          · exact .inr (.inr h)
        · rintro (h | h | h)
          · exact .inr (.inl h)
          · exact .inl h
          · exact .inr (.inr h)

/-- A command below another one is below what is not below that. -/
theorem lt_eq_false_of_lt {a b c : Command} (ha : a.Ranked) (hb : b.Ranked) (hc : c.Ranked)
    (below : a.priority.lt b.priority = true) (above : a.priority.lt c.priority = false) :
    b.priority.lt c.priority = false := by
  obtain ⟨p, ha⟩ := ha
  obtain ⟨q, hb⟩ := hb
  obtain ⟨r, hc⟩ := hc
  rw [ha, hb] at below
  rw [ha, hc] at above
  rw [hb, hc]
  simp only [Number.lt, decide_eq_true_eq, decide_eq_false_iff_not] at below above ⊢
  grind

theorem descending_place {c : Command} {cs : List Command} (rank : c.Ranked)
    (ranks : ∀ d ∈ cs, d.Ranked) (h : Descending cs) : Descending (place c cs) := by
  induction cs with
  | nil => exact List.pairwise_singleton _ c
  | cons d cs ih =>
      have rest := List.pairwise_cons.1 h
      have rankd := ranks d List.mem_cons_self
      rw [place]
      split
      · rename_i below
        refine List.pairwise_cons.2 ⟨?_, h⟩
        intro x hx
        rcases List.mem_cons.1 hx with rfl | hx
        · exact lt_eq_false_of_lt rankd rank rankd below (by
            obtain ⟨q, hq⟩ := rankd
            rw [hq]
            simp [Number.lt])
        · exact lt_eq_false_of_lt rankd rank (ranks x (List.mem_cons_of_mem d hx)) below
            (rest.1 x hx)
      · rename_i notBelow
        have tail := ih (fun e he => ranks e (List.mem_cons_of_mem d he)) rest.2
        refine List.pairwise_cons.2 ⟨fun x hx => ?_, tail⟩
        rcases mem_place.1 hx with rfl | hx
        · exact Bool.eq_false_iff.2 notBelow
        · exact rest.1 x hx

theorem mem_registerAll {r : Registry} {cs : List Command} {d : Command} :
    d ∈ (r.registerAll cs).commands ↔ d ∈ r.commands ∨ d ∈ cs := by
  induction cs generalizing r with
  | nil => simp [registerAll]
  | cons c cs ih =>
      show d ∈ ((r.register c).registerAll cs).commands ↔ _
      rw [ih, register, mem_place, List.mem_cons]
      constructor
      · rintro ((h | h) | h)
        · exact .inr (.inl h)
        · exact .inl h
        · exact .inr (.inr h)
      · rintro (h | h | h)
        · exact .inl (.inr h)
        · exact .inl (.inl h)
        · exact .inr h

theorem descending_registerAll {r : Registry} {cs : List Command}
    (known : ∀ d ∈ r.commands, d.Ranked) (ranks : ∀ d ∈ cs, d.Ranked) (h : Descending r.commands) :
    Descending (r.registerAll cs).commands := by
  induction cs generalizing r with
  | nil => exact h
  | cons c cs ih =>
      have rank := ranks c List.mem_cons_self
      refine ih (r := r.register c) ?_ (fun d hd => ranks d (List.mem_cons_of_mem c hd))
        (descending_place rank known h)
      intro d hd
      rcases mem_place.1 hd with rfl | hd
      · exact rank
      · exact known d hd

theorem firstAccepting_append {text : String} {c : Command} {before after : List Command}
    (accepts : c.accepts text = .ok true) (others : ∀ d ∈ before, d.accepts text = .ok false) :
    firstAccepting text (before ++ c :: after) = (some c, []) := by
  induction before with
  | nil => rw [List.nil_append, firstAccepting, accepts]
  | cons d before ih =>
      rw [List.cons_append, firstAccepting, others d List.mem_cons_self]
      exact ih fun e he => others e (List.mem_cons_of_mem d he)

/-- A command takes an utterance that no other command of the same or a higher priority accepts. -/
theorem findMatching_of_highest {cs : List Command} {c : Command} {text : String}
    (ranks : ∀ d ∈ cs, d.Ranked) (mem : c ∈ cs) (enabled : c.enabled = true)
    (accepts : c.accepts text = .ok true)
    (others : ∀ d ∈ cs, d = c ∨ d.accepts text = .ok false ∨ d.priority.lt c.priority = true) :
    ((Registry.mk []).registerAll cs).findMatching text = (some c, []) := by
  have all : ∀ d, d ∈ ((Registry.mk []).registerAll cs).list ↔ d ∈ cs ∧ d.enabled = true := by
    intro d
    rw [list, if_pos rfl, List.mem_filter, mem_registerAll]
    simp
  have order : Descending ((Registry.mk []).registerAll cs).list := by
    rw [list, if_pos rfl]
    exact (descending_registerAll (fun d hd => absurd hd List.not_mem_nil) ranks
      List.Pairwise.nil).filter _
  obtain ⟨before, after, split, first⟩ := List.eq_append_cons_of_mem ((all c).2 ⟨mem, enabled⟩)
  rw [findMatching, split]
  refine firstAccepting_append accepts ?_
  intro d hd
  have here : d ∈ cs := by
    refine ((all d).1 ?_).1
    rw [split]
    exact List.mem_append_left _ hd
  rcases others d here with rfl | refused | below
  · exact absurd hd first
  · exact refused
  · -- what comes before is not below
    rw [Descending, split, List.pairwise_append] at order
    rw [order.2.2 d hd c List.mem_cons_self] at below
    cases below

/-! ## The highest priority -/

/-- A command goes behind all that are not below it. -/
theorem place_append {c : Command} {front back : List Command}
    (level : ∀ d ∈ front, d.priority.lt c.priority = false) :
    place c (front ++ back) = front ++ place c back := by
  induction front with
  | nil => rfl
  | cons d front ih =>
      have here := level d List.mem_cons_self
      have rest := ih fun e he => level e (List.mem_cons_of_mem d he)
      show (if d.priority.lt c.priority then c :: d :: (front ++ back)
        else d :: place c (front ++ back)) = _
      rw [here, if_neg Bool.false_ne_true, rest]
      rfl

/-- A command goes in front of all that are below it. -/
theorem place_of_below {c : Command} {back : List Command}
    (below : ∀ d ∈ back, d.priority.lt c.priority = true) : place c back = c :: back := by
  cases back with
  | nil => rfl
  | cons d back => rw [place, if_pos (below d List.mem_cons_self)]

/-- Commands of the highest priority are registered behind those that are there already and in front
of all others. -/
theorem commands_registerAll_top {top : Number} {front back cs : List Command}
    (ranks : ∀ c ∈ cs, c.priority = top ∨ c.priority.lt top = true)
    (high : ∀ d ∈ front, d.priority = top) (low : ∀ d ∈ back, d.priority.lt top = true) :
    ((Registry.mk (front ++ back)).registerAll cs).commands =
      front ++ cs.filter (·.priority = top) ++
        ((Registry.mk back).registerAll (cs.filter (·.priority ≠ top))).commands := by
  induction cs generalizing front back with
  | nil => simp [registerAll]
  | cons c cs ih =>
      have rest := fun d hd => ranks d (List.mem_cons_of_mem c hd)
      show ((Registry.mk (place c (front ++ back))).registerAll cs).commands = _
      by_cases isTop : c.priority = top
      · have behind : place c (front ++ back) = (front ++ [c]) ++ back := by
          rw [place_append, place_of_below, List.append_cons]
          · rw [isTop]
            exact low
          · intro d hd
            rw [high d hd, isTop, Number.lt_irrefl]
        have high' : ∀ d ∈ front ++ [c], d.priority = top := by
          intro d hd
          rcases List.mem_append.1 hd with old | new
          · exact high d old
          · rw [List.mem_singleton.1 new, isTop]
        rw [behind, ih rest high' low]
        simp [isTop]
      · have below : c.priority.lt top = true :=
          (ranks c List.mem_cons_self).resolve_left isTop
        have behind : place c (front ++ back) = front ++ place c back := by
          refine place_append fun d hd => ?_
          rw [high d hd, Number.lt_asymm below]
        have low' : ∀ d ∈ place c back, d.priority.lt top = true := by
          intro d hd
          rcases mem_place.1 hd with rfl | old
          · exact below
          · exact low d old
        rw [behind, ih rest high low']
        simp [isTop, registerAll, register]

theorem commands_registerAll_start {top : Number} {cs : List Command}
    (ranks : ∀ c ∈ cs, c.priority = top ∨ c.priority.lt top = true) :
    ((Registry.mk []).registerAll cs).commands = cs.filter (·.priority = top) ++
      ((Registry.mk []).registerAll (cs.filter (·.priority ≠ top))).commands :=
  have nobody {P : Command → Prop} : ∀ d ∈ ([] : List Command), P d := fun _ hd => nomatch hd
  @commands_registerAll_top top [] [] cs ranks nobody nobody

end Registry

end VoiceControl
