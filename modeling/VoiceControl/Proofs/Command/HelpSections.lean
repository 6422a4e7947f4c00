import VoiceControl.Command.Registry

/-!
# The help, section by section

The help is built while the commands are gone through: an entry joins the section with its title,
and a title that has not come up opens a section at the end. So the sections are the commands by
category. The categories stand in the order in which their first commands are asked about an
utterance, and so do the entries of one section.

* `Grouped.addEntry`: one more command keeps the sections right.
* `helpSections_group_commands`: what the help of a registry consists of.
-/

namespace VoiceControl

/-- What the help says of a command. -/
def Command.helpEntry (c : Command) : HelpEntry := ⟨c.description, c.examples⟩

namespace Registry

variable {cs : List Command} {c : Command} {ss : List HelpSection} {title : String}

/-! ## Adding one entry -/

/-- An entry joins the first section with its title, and it opens one at the end where there is no
such section. -/
theorem addEntry_cases (title : String) (e : HelpEntry) (ss : List HelpSection) :
    (∃ before s after, ss = before ++ s :: after ∧ s.title = title ∧
      addEntry title e ss = before ++ ⟨title, s.entries ++ [e]⟩ :: after) ∨
    (title ∉ ss.map (·.title) ∧ addEntry title e ss = ss ++ [⟨title, [e]⟩]) := by
  induction ss with
  | nil => exact .inr ⟨List.not_mem_nil, rfl⟩
  | cons s ss ih =>
      rw [addEntry]
      by_cases same : s.title = title
      · rw [if_pos same]
        subst same
        exact .inl ⟨[], s, ss, rfl, rfl, rfl⟩
      · rw [if_neg same]
        rcases ih with ⟨before, t, after, rfl, named, added⟩ | ⟨fresh, added⟩
        · exact .inl ⟨s :: before, t, after, rfl, named, by rw [added]; rfl⟩
        · refine .inr ⟨?_, by rw [added]; rfl⟩
          rw [List.map_cons, List.mem_cons]
          exact not_or.2 ⟨fun eq => same eq.symm, fresh⟩

/-- The entries of sections, each with the title that it stands under. -/
def placements (ss : List HelpSection) : List (String × HelpEntry) :=
  ss.flatMap fun s => s.entries.map (s.title, ·)

theorem placements_append (ss ts : List HelpSection) :
    placements (ss ++ ts) = placements ss ++ placements ts :=
  List.flatMap_append

/-- Adding an entry adds it under its title, and nothing else. -/
theorem perm_placements_addEntry (title : String) (e : HelpEntry) (ss : List HelpSection) :
    (placements (addEntry title e ss)).Perm (placements ss ++ [(title, e)]) := by
  rcases addEntry_cases title e ss with ⟨before, s, after, rfl, rfl, added⟩ | ⟨-, added⟩
  · have joined : placements (⟨s.title, s.entries ++ [e]⟩ :: after) =
        s.entries.map (s.title, ·) ++ (s.title, e) :: placements after := by
      simp [placements]
    have apart : placements (s :: after) = s.entries.map (s.title, ·) ++ placements after := rfl
    rw [added, placements_append, placements_append, joined, apart, List.append_assoc,
      List.append_assoc]
    refine ((List.Perm.append_left _ ?_).append_left _)
    exact (List.perm_append_singleton _ _).symm
  · rw [added, placements_append]
    exact List.Perm.refl _

/-! ## Sections of commands -/

/-- Where the first command of a category stands among commands. -/
def firstOf (cs : List Command) (category : String) : Nat :=
  cs.findIdx fun c => decide (c.category = category)

theorem firstOf_lt_iff : firstOf cs title < cs.length ↔ ∃ c ∈ cs, c.category = title := by
  simp [firstOf]

/-- The entries of the commands of a category, in the order of the commands. -/
def entriesOf (cs : List Command) (category : String) : List HelpEntry :=
  (cs.filter fun c => decide (c.category = category)).map Command.helpEntry

/-- A command at the end does not change which command of a known category is the first. -/
theorem firstOf_concat_of_known (known : ∃ d ∈ cs, d.category = title) (c : Command) :
    firstOf (cs ++ [c]) title = firstOf cs title := by
  have inside := firstOf_lt_iff.2 known
  rw [firstOf, List.findIdx_append]
  exact if_pos inside

/-- A command at the end is the first of a category that has not come up. -/
theorem firstOf_concat_of_fresh (fresh : ¬ ∃ d ∈ cs, d.category = c.category) :
    firstOf (cs ++ [c]) c.category = cs.length := by
  have outside : ¬ firstOf cs c.category < cs.length := fun h => fresh (firstOf_lt_iff.1 h)
  rw [firstOf, List.findIdx_append]
  refine (if_neg outside).trans ?_
  simp

theorem entriesOf_concat_self (cs : List Command) (c : Command) :
    entriesOf (cs ++ [c]) c.category = entriesOf cs c.category ++ [c.helpEntry] := by
  simp [entriesOf]

theorem entriesOf_concat_of_ne (other : c.category ≠ title) (cs : List Command) :
    entriesOf (cs ++ [c]) title = entriesOf cs title := by
  simp [entriesOf, other]

/-- Commands in sections: each section holds the commands of one category in their order, there is
one for each category that comes up, and the categories are in the order of their first commands. -/
structure Grouped (cs : List Command) (ss : List HelpSection) : Prop where
  entries : ∀ s ∈ ss, s.entries = entriesOf cs s.title
  titles : ∀ title, title ∈ ss.map (·.title) ↔ ∃ c ∈ cs, c.category = title
  ordered : (ss.map (·.title)).Pairwise fun a b => firstOf cs a < firstOf cs b
  placed : (placements ss).Perm (cs.map fun c => (c.category, c.helpEntry))

namespace Grouped

theorem nil : Grouped [] [] where
  entries := by simp
  titles := by simp
  ordered := .nil
  placed := .refl _

theorem nodup_titles (h : Grouped cs ss) : (ss.map (·.title)).Nodup :=
  h.ordered.imp fun {a b} less (same : a = b) => Nat.lt_irrefl _ (same ▸ less)

/-- No section is empty, since its category has come up. -/
theorem entries_ne_nil (h : Grouped cs ss) {s : HelpSection} (mem : s ∈ ss) : s.entries ≠ [] := by
  obtain ⟨c, hc, named⟩ := (h.titles s.title).1 (List.mem_map_of_mem mem)
  have kept : c ∈ cs.filter fun d => decide (d.category = s.title) :=
    List.mem_filter.2 ⟨hc, decide_eq_true named⟩
  rw [h.entries s mem]
  exact List.ne_nil_of_mem (List.mem_map_of_mem kept)

/-- The order of known categories is not changed by a command at the end. -/
theorem ordered_concat (h : Grouped cs ss) (c : Command) :
    (ss.map (·.title)).Pairwise fun a b => firstOf (cs ++ [c]) a < firstOf (cs ++ [c]) b := by
  refine h.ordered.imp_of_mem fun ha hb less => ?_
  rw [firstOf_concat_of_known ((h.titles _).1 ha), firstOf_concat_of_known ((h.titles _).1 hb)]
  exact less

/-- One more command goes into its section, behind those before it; the first command of a category
opens the section. -/
theorem addEntry (h : Grouped cs ss) (c : Command) :
    Grouped (cs ++ [c]) (Registry.addEntry c.category c.helpEntry ss) := by
  have placed : (placements (Registry.addEntry c.category c.helpEntry ss)).Perm
      ((cs ++ [c]).map fun c => (c.category, c.helpEntry)) := by
    rw [List.map_append]
    exact (perm_placements_addEntry _ _ _).trans (h.placed.append_right _)
  have mentioned (title : String) : (∃ d ∈ cs ++ [c], d.category = title) ↔
      title ∈ ss.map (·.title) ∨ title = c.category := by
    rw [h.titles]
    simp [or_and_right, exists_or, eq_comm]
  rcases addEntry_cases c.category c.helpEntry ss with
    ⟨before, s, after, rfl, named, added⟩ | ⟨fresh, added⟩
  · -- the category is known: the titles stay, and one section gets longer
    have same : (Registry.addEntry c.category c.helpEntry (before ++ s :: after)).map (·.title) =
        (before ++ s :: after).map (·.title) := by
      rw [added, ← named]
      simp
    have distinct := h.nodup_titles
    refine ⟨fun t ht => ?_, fun title => ?_, ?_, placed⟩
    · rw [added] at ht
      have split : t = ⟨c.category, s.entries ++ [c.helpEntry]⟩ ∨
          t ∈ before ++ s :: after ∧ t.title ≠ c.category := by
        grind
      rcases split with rfl | ⟨old, other⟩
      · rw [entriesOf_concat_self, ← named, ← h.entries s (by simp)]
      · rw [entriesOf_concat_of_ne other.symm]
        exact h.entries t old
    · rw [same, mentioned]
      refine (or_iff_left_of_imp ?_).symm
      rintro rfl
      exact named ▸ List.mem_map_of_mem (by simp)
    · rw [same]
      exact h.ordered_concat c
  · -- the category is new: its section goes behind all others
    rw [added] at placed ⊢
    have unknown : ¬ ∃ d ∈ cs, d.category = c.category := fun k => fresh ((h.titles _).2 k)
    refine ⟨fun t ht => ?_, fun title => ?_, ?_, placed⟩
    · rcases List.mem_append.1 ht with old | new
      · have other : c.category ≠ t.title := fun eq => fresh (eq ▸ List.mem_map_of_mem old)
        rw [entriesOf_concat_of_ne other]
        exact h.entries t old
      · obtain rfl := List.mem_singleton.1 new
        have none_ : entriesOf cs c.category = [] := by
          simpa [entriesOf, List.filter_eq_nil_iff] using unknown
        rw [entriesOf_concat_self, none_]
        rfl
    · rw [mentioned, List.map_append, List.mem_append]
      exact or_congr_right List.mem_singleton
    · rw [List.map_append, List.pairwise_append]
      refine ⟨h.ordered_concat c, List.pairwise_singleton _ _, fun a ha b hb => ?_⟩
      obtain rfl := List.mem_singleton.1 hb
      have known := (h.titles a).1 ha
      rw [firstOf_concat_of_known known, firstOf_concat_of_fresh unknown]
      exact firstOf_lt_iff.2 known

/-- Going through more commands keeps the sections right. -/
theorem foldl (h : Grouped cs ss) (ds : List Command) :
    Grouped (cs ++ ds)
      (ds.foldl (fun ss c => Registry.addEntry c.category c.helpEntry ss) ss) := by
  induction ds generalizing cs ss with
  | nil => rwa [List.append_nil]
  | cons d ds ih =>
      rw [List.append_cons]
      exact ih (h.addEntry d)

end Grouped

/-! ## The sections of a registry -/

/-- The help of a registry holds each of the commands that it lists once, as an entry under the
title of its category. The titles are distinct and in the order of the first commands of their
categories; a section holds the commands of its category in their order, and there is none without
commands. -/
theorem helpSections_group_commands (r : Registry) (enabledOnly : Bool) :
    let cs := r.list enabledOnly
    let ss := r.helpSections enabledOnly
    (placements ss).Perm (cs.map fun c => (c.category, c.helpEntry)) ∧
      (∀ s ∈ ss, s.entries ≠ [] ∧ s.entries = entriesOf cs s.title) ∧
      (ss.map (·.title)).Nodup ∧
      (∀ title, title ∈ ss.map (·.title) ↔ ∃ c ∈ cs, c.category = title) ∧
      (ss.map (·.title)).Pairwise fun a b => firstOf cs a < firstOf cs b := by
  intro cs ss
  have grouped : Grouped cs ss := Grouped.nil.foldl cs
  exact ⟨grouped.placed, fun s mem => ⟨grouped.entries_ne_nil mem, grouped.entries s mem⟩,
    grouped.nodup_titles, grouped.titles, grouped.ordered⟩

end Registry

end VoiceControl
