import VoiceControl.Proofs.Text.PlainForm
import VoiceControl.Proofs.Text.SingleSpaces
import VoiceControl.Speech.Spacing

/-!
# Tidy spacing

A text is spaced in passes: gaps are closed up before marks, made single, closed up before line
breaks, dropped after them and trimmed. Each pass establishes what may stand next to a gap, and
what the passes before it established survives, since a pass only drops whole gaps or joins them:
whatever comes to stand next to each other was next to a gap before.

* `Spacing.IsTidy`: the spacing that is wanted.
* `isTidy_tidy`, `tidy_eq_self`: the passes lead to it and leave it alone.
* `solid_tidy`: they touch spaces and tabs only.
-/

namespace VoiceControl.Spacing

open VoiceControl.Text

/-- The spacing of a text that was tidied: single spaces inside, without tabs, none before a closing
mark and none next to a line break. -/
structure IsTidy (s : List Char) : Prop extends SinglySpaced s where
  noTab : '\t' ∉ s
  beforeMark : ∀ m, isClosingMark m = true → ¬ [' ', m] <:+: s
  beforeBreak : ¬ [' ', '\n'] <:+: s
  afterBreak : ¬ ['\n', ' '] <:+: s

/-- No gap stands before a character of a class. -/
def NoGapBefore (p : Char → Bool) (s : List Char) : Prop :=
  s.IsChain fun a b => isGap a = true → p b = false

/-- No gap stands after a line break. -/
def NoGapAfterBreak (s : List Char) : Prop := s.IsChain fun a b => a = '\n' → isGap b = false

variable {p q : Char → Bool} {s : List Char} {c : Char} {R : Char → Char → Prop}

theorem isGap_iff : isGap c = true ↔ c = ' ' ∨ c = '\t' := by simp [isGap]

theorem isGap_of_isClosingMark (h : isClosingMark c = true) : isGap c = false :=
  of_contains (P := fun d => isGap d = false) (by decide) h

theorem isGap_of_eq_break (h : (c == '\n') = true) : isGap c = false := by
  rw [beq_iff_eq.1 h]
  rfl

/-! ## The first character behind a gap -/

/-- What follows the gaps at the start of a text is in a class. -/
def leadsTo (p : Char → Bool) (s : List Char) : Bool := (s.dropWhile isGap).head?.any p

theorem leadsTo_cons_gap (gap : isGap c = true) (r : List Char) :
    leadsTo p (c :: r) = leadsTo p r := by
  rw [leadsTo, List.dropWhile_cons_of_pos gap, leadsTo]

theorem leadsTo_cons_of_not_gap (solid : isGap c = false) (r : List Char) :
    leadsTo p (c :: r) = p c := by
  rw [leadsTo, List.dropWhile_cons_of_neg (by simp [solid])]
  rfl

/-- Where no gap stands before a class, no gap leads to it. -/
theorem NoGapBefore.leadsTo_eq_false {r : List Char} (h : NoGapBefore p (c :: r))
    (gap : isGap c = true) : leadsTo p r = false := by
  induction r generalizing c with
  | nil => rfl
  | cons d r ih =>
      obtain ⟨next, rest⟩ := List.isChain_cons_cons.1 h
      cases solid : isGap d with
      | false =>
          rw [leadsTo_cons_of_not_gap solid]
          exact next gap
      | true =>
          rw [leadsTo_cons_gap solid]
          exact ih rest solid

/-! ## Closing up -/

theorem closeUp_cons (c : Char) (r : List Char) :
    closeUp p (c :: r) = if isGap c && leadsTo p r then closeUp p r else c :: closeUp p r := rfl

/-- A text that is closed up starts with what its gaps lead to or as before. -/
theorem head?_closeUp (p : Char → Bool) (s : List Char) :
    (closeUp p s).head? = if leadsTo p s then (s.dropWhile isGap).head? else s.head? := by
  induction s with
  | nil => rfl
  | cons c r ih =>
      rw [closeUp_cons]
      cases gap : isGap c with
      | false =>
          rw [Bool.false_and, if_neg Bool.false_ne_true, List.dropWhile_cons_of_neg (by simp [gap])]
          split <;> rfl
      | true =>
          rw [Bool.true_and, leadsTo_cons_gap gap, List.dropWhile_cons_of_pos gap]
          cases leads : leadsTo p r with
          | false => rfl
          | true =>
              rw [if_pos rfl, if_pos rfl, ih, if_pos leads]

/-- Closing up leaves no gap before the class. -/
theorem noGapBefore_closeUp (solid : ∀ d, p d = true → isGap d = false) (s : List Char) :
    NoGapBefore p (closeUp p s) := by
  induction s with
  | nil => exact List.IsChain.nil
  | cons c r ih =>
      rw [closeUp_cons]
      split
      · exact ih
      · rename_i stays
        refine List.isChain_cons.2 ⟨fun d hd gap => ?_, ih⟩
        have leads : leadsTo p r = false := by simpa [gap] using stays
        rw [head?_closeUp, leads, if_neg Bool.false_ne_true] at hd
        obtain ⟨t, rfl⟩ := List.head?_eq_some_iff.1 hd
        -- the next character is one more gap or what the gaps lead to
        cases next : isGap d with
        | true => exact Bool.eq_false_iff.2 fun inClass => by simp [solid d inClass] at next
        | false => rwa [leadsTo_cons_of_not_gap next] at leads

/-- What holds of all neighbours holds after closing up if it holds of any character before one of
the class. -/
theorem isChain_closeUp (chain : s.IsChain R)
    (meet : ∀ a b, isGap a = false → p b = true → R a b) : (closeUp p s).IsChain R := by
  induction s with
  | nil => exact List.IsChain.nil
  | cons c r ih =>
      obtain ⟨next, rest⟩ := List.isChain_cons.1 chain
      rw [closeUp_cons]
      split
      · exact ih rest
      · rename_i stays
        refine List.isChain_cons.2 ⟨fun d hd => ?_, ih rest⟩
        rw [head?_closeUp] at hd
        split at hd
        · rename_i leads
          have gap : isGap c = false := by simpa [leads] using stays
          refine meet c d gap ?_
          rw [leadsTo, hd] at leads
          exact leads
        · exact next d hd

theorem closeUp_sublist (p : Char → Bool) (s : List Char) : (closeUp p s).Sublist s := by
  induction s with
  | nil => exact List.Sublist.slnil
  | cons c r ih =>
      rw [closeUp_cons]
      split
      · exact ih.cons c
      · exact ih.cons_cons c

theorem closeUp_of_noGapBefore (none_ : NoGapBefore p s) : closeUp p s = s := by
  induction s with
  | nil => rfl
  | cons c r ih =>
      have stays : (isGap c && leadsTo p r) = false := by
        cases gap : isGap c with
        | false => rfl
        | true => exact none_.leadsTo_eq_false gap
      rw [closeUp_cons, stays, if_neg Bool.false_ne_true, ih (List.isChain_cons.1 none_).2]

/-! ## Single gaps -/

theorem head?_single_true (s : List Char) : (single true s).head? = (s.dropWhile isGap).head? := by
  induction s with
  | nil => rfl
  | cons c r ih =>
      rw [single]
      cases gap : isGap c with
      | false =>
          rw [if_neg Bool.false_ne_true, List.dropWhile_cons_of_neg (by simp [gap])]
          rfl
      | true => rw [if_pos rfl, if_pos rfl, List.dropWhile_cons_of_pos gap, ih]

/-- Where no gap stood before a class, none does when gaps are single. -/
theorem noGapBefore_single (none_ : NoGapBefore p s) (inGap : Bool) :
    NoGapBefore p (single inGap s) := by
  induction s generalizing inGap with
  | nil => exact List.IsChain.nil
  | cons c r ih =>
      have rest := (List.isChain_cons.1 none_).2
      rw [single]
      cases gap : isGap c with
      | false =>
          rw [if_neg Bool.false_ne_true]
          refine List.isChain_cons.2 ⟨fun d _ again => ?_, ih rest false⟩
          rw [gap] at again
          cases again
      | true =>
          rw [if_pos rfl]
          cases inGap with
          | true => exact ih rest true
          | false =>
              rw [if_neg Bool.false_ne_true]
              refine List.isChain_cons.2 ⟨fun d hd _ => ?_, ih rest true⟩
              have leads := none_.leadsTo_eq_false gap
              rw [head?_single_true] at hd
              rw [leadsTo, hd] at leads
              exact leads

/-- No gap follows another. -/
theorem noGapBefore_isGap_single (inGap : Bool) (s : List Char) :
    NoGapBefore isGap (single inGap s) := by
  induction s generalizing inGap with
  | nil => exact List.IsChain.nil
  | cons c r ih =>
      rw [single]
      cases gap : isGap c with
      | false =>
          rw [if_neg Bool.false_ne_true]
          refine List.isChain_cons.2 ⟨fun d _ again => ?_, ih false⟩
          rw [gap] at again
          cases again
      | true =>
          rw [if_pos rfl]
          cases inGap with
          | true => exact ih true
          | false =>
              rw [if_neg Bool.false_ne_true]
              refine List.isChain_cons.2 ⟨fun d hd _ => ?_, ih true⟩
              rw [head?_single_true] at hd
              have solid := List.head?_dropWhile_not isGap r
              rw [hd] at solid
              simpa using solid

/-- The gaps that are left are spaces. -/
theorem eq_space_of_mem_single {inGap : Bool} (h : c ∈ single inGap s) (gap : isGap c = true) :
    c = ' ' := by
  induction s generalizing inGap with
  | nil => cases h
  | cons d r ih =>
      rw [single] at h
      split at h
      · split at h
        · exact ih h
        · rcases List.mem_cons.1 h with rfl | later
          · rfl
          · exact ih later
      · rename_i solid
        rcases List.mem_cons.1 h with rfl | later
        · exact absurd gap solid
        · exact ih later

theorem single_eq_self (apart : NoGapBefore isGap s) (spaces : ∀ c ∈ s, isGap c = true → c = ' ')
    {inGap : Bool} (start : inGap = true → ∀ c, s.head? = some c → isGap c = false) :
    single inGap s = s := by
  induction s generalizing inGap with
  | nil => rfl
  | cons c r ih =>
      obtain ⟨next, rest⟩ := List.isChain_cons.1 apart
      have later := fun d hd => spaces d (List.mem_cons_of_mem c hd)
      rw [single]
      cases gap : isGap c with
      | false =>
          rw [if_neg Bool.false_ne_true, ih rest later fun again => by cases again]
      | true =>
          have outside : inGap = false := by
            refine Bool.eq_false_iff.2 fun inside => ?_
            rw [start inside c rfl] at gap
            cases gap
          rw [if_pos rfl, outside, if_neg Bool.false_ne_true,
            ih rest later fun _ d hd => next d hd gap, ← spaces c List.mem_cons_self gap]

/-! ## Behind a line break -/

theorem head?_flushLeft (atBreak : Bool) (s : List Char) :
    (flushLeft atBreak s).head? =
      if atBreak then (s.dropWhile isGap).head? else s.head? := by
  induction s generalizing atBreak with
  | nil => cases atBreak <;> rfl
  | cons c r ih =>
      rw [flushLeft]
      cases gap : isGap c with
      | false =>
          rw [Bool.false_and, if_neg Bool.false_ne_true, List.dropWhile_cons_of_neg (by simp [gap])]
          split <;> rfl
      | true =>
          cases atBreak with
          | false => rfl
          | true =>
              rw [Bool.true_and, if_pos rfl, ih true, if_pos rfl, if_pos rfl,
                List.dropWhile_cons_of_pos gap]

theorem noGapAfterBreak_flushLeft (atBreak : Bool) (s : List Char) :
    NoGapAfterBreak (flushLeft atBreak s) := by
  induction s generalizing atBreak with
  | nil => exact List.IsChain.nil
  | cons c r ih =>
      rw [flushLeft]
      split
      · exact ih true
      · refine List.isChain_cons.2 ⟨?_, ih _⟩
        rintro d hd rfl
        rw [head?_flushLeft, if_pos (by rfl)] at hd
        have solid := List.head?_dropWhile_not isGap r
        rw [hd] at solid
        simpa using solid

/-- What holds of all neighbours holds once gaps behind line breaks are dropped if it holds of a
line break before any character that is no gap. -/
theorem isChain_flushLeft (chain : s.IsChain R) (meet : ∀ b, isGap b = false → R '\n' b)
    (atBreak : Bool) : (flushLeft atBreak s).IsChain R := by
  induction s generalizing atBreak with
  | nil => exact List.IsChain.nil
  | cons c r ih =>
      obtain ⟨next, rest⟩ := List.isChain_cons.1 chain
      rw [flushLeft]
      split
      · exact ih rest true
      · refine List.isChain_cons.2 ⟨fun d hd => ?_, ih rest _⟩
        rw [head?_flushLeft] at hd
        split at hd
        · rename_i break_
          have solid := List.head?_dropWhile_not isGap r
          rw [hd] at solid
          rw [beq_iff_eq.1 break_]
          exact meet d (by simpa using solid)
        · exact next d hd

theorem flushLeft_sublist (atBreak : Bool) (s : List Char) : (flushLeft atBreak s).Sublist s := by
  induction s generalizing atBreak with
  | nil => exact List.Sublist.slnil
  | cons c r ih =>
      rw [flushLeft]
      split
      · exact (ih true).cons c
      · exact (ih _).cons_cons c

theorem flushLeft_of_noGapAfterBreak (none_ : NoGapAfterBreak s) {atBreak : Bool}
    (start : atBreak = true → ∀ c, s.head? = some c → isGap c = false) :
    flushLeft atBreak s = s := by
  induction s generalizing atBreak with
  | nil => rfl
  | cons c r ih =>
      obtain ⟨next, rest⟩ := List.isChain_cons.1 none_
      have stays : (isGap c && atBreak) = false := by
        cases h : atBreak with
        | false => exact Bool.and_false _
        | true => rw [start h c rfl, Bool.false_and]
      rw [flushLeft, stays, if_neg Bool.false_ne_true,
        ih rest fun break_ d hd => next d hd (beq_iff_eq.1 break_)]

/-! ## All passes -/

/-- A text is tidy if its gaps are spaces inside of it that are well placed. -/
theorem isTidy_iff : IsTidy s ↔
    (∀ c ∈ s, isGap c = true → c = ' ') ∧ NoGapBefore isGap s ∧ NoGapBefore isClosingMark s ∧
      NoGapBefore (· == '\n') s ∧ NoGapAfterBreak s ∧
      (∀ c, s.head? = some c → isGap c = false) ∧ ∀ c, s.getLast? = some c → isGap c = false := by
  constructor
  · intro tidy
    have spaces : ∀ c ∈ s, isGap c = true → c = ' ' := by
      intro c hc gap
      rcases isGap_iff.1 gap with rfl | rfl
      · rfl
      · exact absurd hc tidy.noTab
    have before {p : Char → Bool} (none_ : ∀ b ∈ s, p b = true → ¬ [' ', b] <:+: s) :
        NoGapBefore p s := by
      refine isChain_iff_neighbours.2 fun a b within gap => Bool.eq_false_iff.2 fun inClass => ?_
      obtain rfl := spaces a (within.mem (by simp)) gap
      exact none_ b (within.mem (by simp)) inClass within
    refine ⟨spaces, before fun b hb gap => ?_, before fun b _ => tidy.beforeMark b,
      before fun b _ break_ => ?_, isChain_iff_neighbours.2 fun a b within break_ => ?_,
      fun c hc => ?_, fun c hc => ?_⟩
    · rw [spaces b hb gap]
      exact tidy.apart
    · rw [beq_iff_eq.1 break_]
      exact tidy.beforeBreak
    all_goals refine Bool.eq_false_iff.2 fun gap => ?_
    · obtain rfl := spaces b (within.mem (by simp)) gap
      exact tidy.afterBreak (break_ ▸ within)
    · obtain rfl := spaces c (List.mem_of_head? hc) gap
      exact tidy.front hc
    · obtain rfl := spaces c (List.mem_of_getLast? hc) gap
      exact tidy.back hc
  · rintro ⟨spaces, apart, marks, breaks, behind, front, back⟩
    have gap : isGap ' ' = true := rfl
    exact {
      apart := fun within => Bool.false_ne_true
        ((isChain_iff_neighbours.1 apart _ _ within gap).symm.trans gap)
      front := fun starts => Bool.false_ne_true ((front _ starts).symm.trans gap)
      back := fun ends => Bool.false_ne_true ((back _ ends).symm.trans gap)
      noTab := fun tab => by cases spaces '\t' tab rfl
      beforeMark := fun m mark within => Bool.false_ne_true
        ((isChain_iff_neighbours.1 marks _ _ within gap).symm.trans mark)
      beforeBreak := fun within => Bool.false_ne_true
        ((isChain_iff_neighbours.1 breaks _ _ within gap).symm.trans (beq_self_eq_true '\n'))
      afterBreak := fun within => Bool.false_ne_true
        ((isChain_iff_neighbours.1 behind _ _ within rfl).symm.trans gap) }

theorem trimBy_infix (p : Char → Bool) (s : List Char) : trimBy p s <:+: s := by
  obtain ⟨a, b, split, -, -⟩ := exists_eq_append_trimBy p s
  exact ⟨a, b, split.symm⟩

/-- What stands at the ends of a trimmed text stays. -/
theorem trimBy_ends (p : Char → Bool) (s : List Char) :
    (∀ c, (trimBy p s).head? = some c → p c = false) ∧
      ∀ c, (trimBy p s).getLast? = some c → p c = false := by
  constructor
  · intro c hc
    obtain ⟨t, lead⟩ : trimBy p s <+: s.dropWhile p := List.rdropWhile_prefix p _
    have stays := List.head?_dropWhile_not p s
    rw [← lead, List.head?_append, hc] at stays
    simpa using stays
  · intro c hc
    have stays := List.head?_dropWhile_not p (s.dropWhile p).reverse
    rw [trimBy, List.getLast?_reverse] at hc
    rw [hc] at stays
    simpa using stays

/-- The passes lead to a tidy spacing. -/
theorem isTidy_tidy (s : List Char) : IsTidy (tidy s) := by
  have mark (d : Char) : isClosingMark d = true → isGap d = false := isGap_of_isClosingMark
  have break_ (d : Char) : (d == '\n') = true → isGap d = false := isGap_of_eq_break
  -- closing up and flushing bring no gap before anything: what they drop leaves no gap behind
  have kept {p : Char → Bool} {t : List Char} (none_ : NoGapBefore p t) :
      NoGapBefore p (closeUp (· == '\n') t) :=
    isChain_closeUp none_ fun a _ solid _ gap => by rw [solid] at gap; cases gap
  have flushed {p : Char → Bool} {t : List Char} (none_ : NoGapBefore p t) :
      NoGapBefore p (flushLeft false t) :=
    isChain_flushLeft none_ (fun _ _ gap => by cases gap) false
  have marks := noGapBefore_single (noGapBefore_closeUp mark s) false
  have gaps := noGapBefore_isGap_single false (closeUp isClosingMark s)
  have spaces : ∀ c ∈ single false (closeUp isClosingMark s), isGap c = true → c = ' ' :=
    fun _ => eq_space_of_mem_single
  rw [tidy]
  generalize single false (closeUp isClosingMark s) = t at marks gaps spaces ⊢
  have inside := trimBy_infix isGap (flushLeft false (closeUp (· == '\n') t))
  have part : ∀ c ∈ trimBy isGap (flushLeft false (closeUp (· == '\n') t)), c ∈ t := fun c hc =>
    (closeUp_sublist _ t).subset ((flushLeft_sublist false _).subset (inside.subset hc))
  obtain ⟨front, back⟩ := trimBy_ends isGap (flushLeft false (closeUp (· == '\n') t))
  have within {R : Char → Char → Prop}
      (chain : (flushLeft false (closeUp (· == '\n') t)).IsChain R) :
      (trimBy isGap (flushLeft false (closeUp (· == '\n') t))).IsChain R :=
    List.IsChain.infix chain inside
  exact isTidy_iff.2 ⟨fun c hc => spaces c (part c hc), within (flushed (kept gaps)),
    within (flushed (kept marks)), within (flushed (noGapBefore_closeUp break_ t)),
    within (noGapAfterBreak_flushLeft false _), front, back⟩

/-- A tidy text stays as it is. -/
theorem tidy_eq_self (h : IsTidy s) : tidy s = s := by
  obtain ⟨spaces, apart, marks, breaks, behind, front, back⟩ := isTidy_iff.1 h
  have trimmed : trimBy isGap s = s := by
    by_cases none_ : s = []
    · rw [none_]
      rfl
    · obtain ⟨t, d, rfl⟩ := (List.eq_nil_or_concat s).resolve_left none_
      obtain ⟨c, r, first⟩ := List.exists_cons_of_ne_nil none_
      exact trimBy_eq_self ⟨c, r, first, front c (by rw [first]; rfl)⟩
        ⟨d, t.reverse, by simp, back d (by simp)⟩
  rw [tidy, closeUp_of_noGapBefore marks, single_eq_self apart spaces (fun h => by cases h),
    closeUp_of_noGapBefore breaks, flushLeft_of_noGapAfterBreak behind (fun h => by cases h),
    trimmed]

/-! ## What is left alone -/

/-- A text without its spaces and tabs. -/
def solid (s : List Char) : List Char := s.filter fun c => !isGap c

theorem solid_cons (c : Char) (r : List Char) :
    solid (c :: r) = if isGap c then solid r else c :: solid r := by
  cases gap : isGap c <;> simp [solid, gap]

theorem solid_closeUp (p : Char → Bool) (s : List Char) : solid (closeUp p s) = solid s := by
  induction s with
  | nil => rfl
  | cons c r ih =>
      rw [closeUp_cons]
      cases gap : isGap c with
      | false =>
          rw [Bool.false_and, if_neg Bool.false_ne_true, solid_cons, solid_cons, ih]
      | true =>
          split
          · rw [ih, solid_cons, if_pos gap]
          · rw [solid_cons, solid_cons, ih]

theorem solid_single (inGap : Bool) (s : List Char) : solid (single inGap s) = solid s := by
  induction s generalizing inGap with
  | nil => rfl
  | cons c r ih =>
      rw [single, solid_cons c r]
      split
      · split
        · exact ih true
        · rw [solid_cons, ih true]
          rfl
      · rename_i notGap
        rw [solid_cons, ih false, if_neg notGap]

theorem solid_flushLeft (atBreak : Bool) (s : List Char) :
    solid (flushLeft atBreak s) = solid s := by
  induction s generalizing atBreak with
  | nil => rfl
  | cons c r ih =>
      rw [flushLeft]
      split
      · rename_i dropped
        rw [ih true, solid_cons, if_pos (Bool.and_eq_true_iff.1 dropped).1]
      · rw [solid_cons, solid_cons, ih]

theorem solid_trimBy (s : List Char) : solid (trimBy isGap s) = solid s := by
  obtain ⟨a, b, split, front, back⟩ := exists_eq_append_trimBy isGap s
  have gone {t : List Char} (gaps : ∀ c ∈ t, isGap c = true) : solid t = [] :=
    List.filter_eq_nil_iff.2 fun c hc => by simp [gaps c hc]
  have parts : solid s = solid a ++ solid (trimBy isGap s) ++ solid b := by
    conv_lhs => rw [split]
    simp only [solid, List.filter_append]
  rw [parts, gone front, gone back, List.nil_append, List.append_nil]

/-- Spacing touches spaces and tabs only. -/
theorem solid_tidy (s : List Char) : solid (tidy s) = solid s := by
  rw [tidy, solid_trimBy, solid_flushLeft, solid_closeUp, solid_single, solid_closeUp]

end VoiceControl.Spacing
