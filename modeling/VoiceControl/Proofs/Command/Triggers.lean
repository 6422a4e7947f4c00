import VoiceControl.Command.Custom
import VoiceControl.Proofs.Command.AttachedMarks
import VoiceControl.Proofs.Text.Likeness
import VoiceControl.Proofs.Text.NumberReaders
import VoiceControl.Proofs.Text.SpokenMarks

/-!
# Triggers as they are written

An utterance loses its marks before it is compared with a trigger, and the trigger keeps them. So a
custom command does not know its own trigger by the letter if there is a mark in it. Likeness helps
where the two normalise to the same text: of the marks, only the apostrophe outlives that. A capital
sigma is put in lower case by what stands next to it, marks included.

* `plain_eq_trim_lower_iff`: which texts are nothing but lower case in their plain form.
* `normalize_unmarked`: marks do not matter once texts are normalised.
* `custom_accepts_trigger_iff`: which custom commands answer to their own triggers.
-/

namespace VoiceControl

open VoiceControl.Text

namespace Text

variable {s : List Char} {p q : Char → Bool}

/-! ## Trimming and leaving out characters -/

/-- Blanks at the ends of a text are not in its words, whatever else is left out. -/
theorem words_filter_trim (s : List Char) : words ((trim s).filter p) = words (s.filter p) := by
  obtain ⟨a, b, whole, front, back⟩ := exists_eq_append_trimBy isBlank s
  have parts : s.filter p = a.filter p ++ (trim s).filter p ++ b.filter p := by
    conv_lhs => rw [whole]
    rw [List.filter_append, List.filter_append]
    rfl
  rw [parts, words_append_blanks fun c hc => back c (List.mem_of_mem_filter hc),
    words_blank_append fun c hc => front c (List.mem_of_mem_filter hc)]

/-- What is its own lower case and is left out afterwards may be left out before. -/
theorem filter_lower_filter (drops : ∀ c ∈ s, p c = false → IsLowered c ∧ q c = false)
    (none_ : ∀ c ∈ s, c ≠ '\u03A3') : (lower (s.filter p)).filter q = (lower s).filter q := by
  rw [lower, lower, lowerFrom_of_no_sigma none_,
    lowerFrom_of_no_sigma fun c hc => none_ c (List.mem_of_mem_filter hc)]
  clear none_
  induction s with
  | nil => rfl
  | cons c s ih =>
      obtain ⟨here, later⟩ := List.forall_mem_cons.1 drops
      rw [List.flatMap_cons, List.filter_append, ← ih later]
      cases kept : p c with
      | true => rw [List.filter_cons_of_pos kept, List.flatMap_cons, List.filter_append]
      | false =>
          obtain ⟨lowered, dropped⟩ := here kept
          have gone : (lowerChar c).filter q = [] := by
            rw [lowered.1, List.filter_singleton, dropped]
            rfl
          rw [List.filter_cons_of_neg (Bool.eq_false_iff.1 kept), gone, List.nil_append]

end Text

/-! ## Marks and likeness -/

namespace Lexicon

variable {s : List Char}

/-- Of the marks, normalising keeps the apostrophe only. -/
theorem isKept_of_isMark {c : Char} (mark : Utterance.isMark c = true) (other : c ≠ '\x27') :
    isKept c = false := by
  have all : c = '\x27' ∨ isKept c = false :=
    of_contains (P := fun d => d = '\x27' ∨ isKept d = false) (by decide) mark
  exact all.resolve_left other

/-- A text is normalised the same when it was put in lower case and trimmed before. -/
theorem normalize_trim_lower (s : List Char) : normalize (trim (lower s)) = normalize s := by
  have case : lower (trim (lower s)) = trim (lower s) :=
    lowerFrom_of_lowered (fun _ h => isLowered_of_mem_lowerFrom (mem_of_mem_trimBy h)) []
  rw [normalize, normalize, squeeze, squeeze, case, words_filter_trim]

/-- Without apostrophes and capital sigmas, marks do not matter once a text is normalised. -/
theorem normalize_unmarked (plain : ∀ c ∈ s, c ≠ '\x27' ∧ c ≠ '\u03A3') :
    normalize (s.filter fun c => !Utterance.isMark c) = normalize s := by
  rw [normalize, normalize]
  refine congrArg squeeze (filter_lower_filter (fun c hc marked => ?_) fun c hc => (plain c hc).2)
  have mark : Utterance.isMark c = true := by simpa using marked
  exact ⟨isLowered_of_isMark mark, isKept_of_isMark mark (plain c hc).1⟩

theorem isAlike_eq (lx : Lexicon) (a b : List Char) :
    lx.isAlike a b = lx.threshold.le (similarity (normalize a) (normalize b)) := rfl

theorem similarity_self (s : List Char) : similarity s s = 1 := by
  rw [similarity_eq, (Similarity.share_bounds _ _).2.1.2 rfl]
  rfl

end Lexicon

/-- A text is only put in lower case and trimmed in its plain form exactly if it has no marks. -/
theorem Utterance.plain_eq_trim_lower_iff {s : List Char} :
    plain s = trim (lower s) ↔ ∀ c ∈ s, isMark c = false := by
  refine ⟨fun same c hc => Bool.eq_false_iff.2 fun mark => ?_, plain_of_unmarked⟩
  have kept := Command.mem_trim_lower_of_isMark hc mark
  rw [← same] at kept
  rw [isMark_of_mem_plain kept] at mark
  cases mark

namespace Command

/-! ## Answering to the trigger -/

variable {d : CustomDefinition}

/-- Whether a trigger and what is left of it without its marks are alike enough. -/
def AlikeUnmarked (lx : Lexicon) (trigger : List Char) : Prop :=
  lx.isAlike (trigger.filter fun c => !Utterance.isMark c) trigger = true

theorem toList_phrase (d : CustomDefinition) : d.phrase.toList = trim (lower d.trigger.toList) := by
  rw [CustomDefinition.phrase, trimText, lowerText, String.toList_ofList, String.toList_ofList]

theorem isAlike_plain_phrase (lx : Lexicon) (d : CustomDefinition) :
    lx.isAlike (Utterance.plain d.trigger.toList) d.phrase.toList = true ↔
      AlikeUnmarked lx d.trigger.toList := by
  rw [AlikeUnmarked, Lexicon.isAlike_eq, Lexicon.isAlike_eq, toList_phrase, Utterance.plain,
    Lexicon.normalize_trim_lower, Lexicon.normalize_trim_lower]

/-- A trigger is alike enough if it has neither apostrophes nor capital sigmas. -/
theorem alikeUnmarked_of_plain {lx : Lexicon} {trigger : List Char}
    (possible : lx.threshold.le 1 = true) (plain : ∀ c ∈ trigger, c ≠ '\x27' ∧ c ≠ '\u03A3') :
    AlikeUnmarked lx trigger := by
  rw [AlikeUnmarked, Lexicon.isAlike_eq, Lexicon.normalize_unmarked plain, Lexicon.similarity_self]
  exact possible

theorem accepts_trigger_iff (id : Nat) (d : CustomDefinition) (fuzzy : Option Lexicon) :
    (custom id d fuzzy).accepts d.trigger = .ok true ↔
      (∀ c ∈ d.trigger.toList, Utterance.isMark c = false) ∨
        ∃ lx, fuzzy = some lx ∧ AlikeUnmarked lx d.trigger.toList := by
  rw [← Utterance.plain_eq_trim_lower_iff, ← toList_phrase]
  show Except.ok (_ || _) = Except.ok true ↔ _
  rw [Except.ok.injEq, Bool.or_eq_true, decide_eq_true_iff, Option.any_eq_true]
  simp only [isAlike_plain_phrase]

/-- The command of a usable entry stands behind those of the usable entries before it. -/
theorem getElem?_customs {first : Nat} {s : CustomSettings} {lx : Option Lexicon}
    (enabled : s.enabled = true) {before after : List Tree} {t : Tree}
    (listed : s.commands = before ++ t :: after) (valid : CustomDefinition.ofTree? t = some d) :
    (customs first s lx).1[(before.filterMap CustomDefinition.ofTree?).length]? =
      some (custom (first + (before.filterMap CustomDefinition.ofTree?).length) d
        (if s.fuzzy then lx else none)) := by
  have usable : (definitions s).1 = before.filterMap CustomDefinition.ofTree? ++
      d :: after.filterMap CustomDefinition.ofTree? := by
    rw [definitions, if_pos enabled, listed]
    simp [valid, List.filterMap_map]
  show (((definitions s).1.zipIdx).map _)[_]? = _
  rw [usable, List.getElem?_map, List.getElem?_zipIdx, List.getElem?_append_right (Nat.le_refl _),
    Nat.sub_self]
  simp

/-- The command that is made of a usable entry answers to the trigger as it is written exactly if
there is no mark in it, or likeness is taken into account and the trigger is like itself without its
marks. If it is taken into account, marks other than apostrophes do no harm; only a capital sigma
may depend on them. -/
theorem custom_accepts_trigger_iff (first : Nat) (s : CustomSettings) (lx : Option Lexicon)
    (enabled : s.enabled = true) (before after : List Tree) (t : Tree) (d : CustomDefinition)
    (listed : s.commands = before ++ t :: after) (valid : CustomDefinition.ofTree? t = some d) :
    ∃ c, (customs first s lx).1[(before.filterMap CustomDefinition.ofTree?).length]? = some c ∧
      c.examples = [d.phrase] ∧
      (c.accepts d.trigger = .ok true ↔
        (∀ ch ∈ d.trigger.toList, Utterance.isMark ch = false) ∨
          s.fuzzy = true ∧ ∃ l, lx = some l ∧ AlikeUnmarked l d.trigger.toList) ∧
      (s.fuzzy = true → ∀ l, lx = some l → l.threshold.le 1 = true →
        (∀ ch ∈ d.trigger.toList, ch ≠ '\x27' ∧ ch ≠ '\u03A3') →
          c.accepts d.trigger = .ok true) := by
  refine ⟨_, getElem?_customs enabled listed valid, rfl, ?_, ?_⟩
  · rw [accepts_trigger_iff]
    cases s.fuzzy <;> simp
  · intro fuzzy l reached possible plain
    rw [accepts_trigger_iff, if_pos fuzzy]
    exact .inr ⟨l, reached, alikeUnmarked_of_plain possible plain⟩

/-- "Sign off!" is known by its likeness, behind an entry that cannot be used. -/
theorem custom_accepts_trigger_sign_off :
    let t : Tree := .mapping [("trigger", .text "Sign off!"),
      ("action", .mapping [("type", .text "type_text"), ("text", .text "Kind regards")])]
    let s : CustomSettings := { enabled := true, fuzzy := true, commands := [.text "bye", t] }
    let d : CustomDefinition := ⟨"Sign off!", .typeText "Kind regards"⟩
    let lx := Lexicon.make .bundled defaultIgnoredWords defaultThreshold
    s.enabled = true ∧ s.commands = [.text "bye"] ++ t :: [] ∧
      CustomDefinition.ofTree? t = some d ∧
      ∃ c, (customs 0 s (some lx)).1[0]? = some c ∧ c.accepts "Sign off!" = .ok true := by
  intro t s d lx
  have valid : CustomDefinition.ofTree? t = some d := rfl
  obtain ⟨c, made, -, -, known⟩ :=
    custom_accepts_trigger_iff 0 s (some lx) rfl [.text "bye"] [] t d rfl valid
  exact ⟨rfl, rfl, valid, c, made,
    known rfl lx rfl (by decide +kernel) (List.all_iff_forall_prop.1 (by decide))⟩

/-- Nobody can say "what's up" to the command that it triggers. -/
theorem custom_refuses_whats_up :
    let t : Tree := .mapping [("trigger", .text "what's up"),
      ("action", .mapping [("type", .text "type_text"), ("text", .text "hi")])]
    let s : CustomSettings := { enabled := true, fuzzy := false, commands := [t] }
    let lx := Lexicon.make .bundled defaultIgnoredWords defaultThreshold
    CustomDefinition.ofTree? t = some ⟨"what's up", .typeText "hi"⟩ ∧
      ((customs 0 s (some lx)).1.map fun c => c.accepts "what's up") = [.ok false] :=
  ⟨rfl, rfl⟩

end Command

end VoiceControl
