import Mathlib.Data.List.TakeDrop
import VoiceControl.Command.Builtin

/-!
# Foreign phrases

A recogniser that looks for phrases does not take a text over an alphabet that none of its phrases
is written in. This is how most commands are told not to be meant.
-/

namespace VoiceControl.Command

open VoiceControl.Text

/-- A phrase has a character outside an alphabet. -/
def isForeign (alphabet : Char → Bool) (phrase : String) : Bool :=
  phrase.toList.any fun c => !alphabet c

section Alphabet

variable {alphabet : Char → Bool} {s : List Char}

theorem exists_of_isForeign (written : ∀ c ∈ s, alphabet c = true) {phrase : String}
    (foreign : isForeign alphabet phrase = true) : ∃ c ∈ phrase.toList, c ∉ s := by
  obtain ⟨c, mem, outside⟩ := List.any_eq_true.1 foreign
  refine ⟨c, mem, fun here => ?_⟩
  rw [written c here] at outside
  cases outside

theorem leads_eq_false (written : ∀ c ∈ s, alphabet c = true) {phrase : String}
    (foreign : isForeign alphabet phrase = true) : leads phrase s = false := by
  obtain ⟨c, mem, outside⟩ := exists_of_isForeign written foreign
  cases found : after? phrase.toList s with
  | none => rw [leads, startsWith, found, Option.isSome_none]
  | some rest =>
      refine absurd ?_ outside
      rw [after?_eq_some_iff.1 found]
      exact List.mem_append_left rest mem

theorem mentions_eq_false (written : ∀ c ∈ s, alphabet c = true) {phrase : String}
    (foreign : isForeign alphabet phrase = true) : mentions phrase s = false := by
  obtain ⟨c, mem, outside⟩ := exists_of_isForeign written foreign
  cases found : splitAt? phrase.toList s with
  | none => rw [mentions, occursIn, found, Option.isSome_none]
  | some parts =>
      refine absurd ?_ outside
      rw [eq_of_splitAt? found]
      exact List.mem_append_left _ (List.mem_append_right _ mem)

theorem ne_of_isForeign (written : ∀ c ∈ s, alphabet c = true) {phrase : String}
    (foreign : isForeign alphabet phrase = true) : String.ofList s ≠ phrase := by
  rintro rfl
  obtain ⟨c, mem, outside⟩ := exists_of_isForeign written foreign
  rw [String.toList_ofList] at mem
  exact outside mem

theorem isOneOf_eq_false (written : ∀ c ∈ s, alphabet c = true) {phrases : List String}
    (foreign : phrases.all (isForeign alphabet) = true) : isOneOf phrases s = false := by
  cases found : isOneOf phrases s with
  | false => rfl
  | true =>
      have mem : String.ofList s ∈ phrases := List.contains_iff_mem.1 found
      exact absurd rfl (ne_of_isForeign written (List.all_eq_true.1 foreign _ mem))

theorem any_mentions_eq_false (written : ∀ c ∈ s, alphabet c = true) {phrases : List String}
    (foreign : phrases.all (isForeign alphabet) = true) :
    phrases.any (mentions · s) = false := by
  refine List.any_eq_false.2 fun p hp => ?_
  rw [mentions_eq_false written (List.all_eq_true.1 foreign p hp)]
  exact Bool.false_ne_true

theorem get?_eq_none_of_isForeign (written : ∀ c ∈ s, alphabet c = true) {α : Type}
    {es : Entries α} (foreign : es.keys.all (isForeign alphabet) = true) :
    Entries.get? (String.ofList s) es = none := by
  induction es with
  | nil => rfl
  | cons e es ih =>
      obtain ⟨k, v⟩ := e
      rw [Entries.keys, List.map_cons, List.all_cons, Bool.and_eq_true] at foreign
      rw [Entries.get?_cons, if_neg (ne_of_isForeign written foreign.1)]
      exact ih foreign.2

/-- A command that tests plain utterances does not take one that fails the test. -/
theorem plainly_eq_false {test : List Char → Bool} (plain : Utterance.plain s = s)
    (fails : test s = false) : plainly test (String.ofList s) = .ok false := by
  rw [plainly, String.toList_ofList, plain, fails]

/-- A command on a lead and more does not take an utterance without the lead. -/
theorem plainly_leads_eq_false (written : ∀ c ∈ s, alphabet c = true)
    (plain : Utterance.plain s = s) {lead : String} (foreign : isForeign alphabet lead = true)
    (more : List Char → Bool) :
    plainly (fun clean => leads lead clean && more clean) (String.ofList s) = .ok false := by
  refine plainly_eq_false plain ?_
  rw [leads_eq_false written foreign, Bool.false_and]

/-! ## Commands on fixed phrases -/

theorem keyPress_refuses (written : ∀ c ∈ s, alphabet c = true) (plain : Utterance.plain s = s)
    {triggers : List String} (foreign : (triggers.map lowerText).all (isForeign alphabet) = true)
    (id : Nat) (name key description : String) (priority : Number) :
    (keyPress id name triggers key description priority).accepts (String.ofList s) = .ok false := by
  unfold keyPress
  exact plainly_eq_false plain (isOneOf_eq_false written foreign)

theorem keyboardShortcut_refuses (written : ∀ c ∈ s, alphabet c = true)
    (plain : Utterance.plain s = s) {triggers : List String}
    (foreign : (triggers.map lowerText).all (isForeign alphabet) = true)
    (id : Nat) (name key description : String) (priority : Number) (modifier : String) :
    (keyboardShortcut id name triggers key description priority modifier).accepts
      (String.ofList s) = .ok false := by
  unfold keyboardShortcut
  exact plainly_eq_false plain (isOneOf_eq_false written foreign)

theorem fixedClick_refuses (written : ∀ c ∈ s, alphabet c = true) (plain : Utterance.plain s = s)
    {triggers : List String} (foreign : triggers.all (isForeign alphabet) = true)
    (id : Nat) (name : String) (button : MouseButton) (count : Nat) (description : String)
    (priority : Number) :
    (fixedClick id name triggers button count description priority).accepts (String.ofList s) =
      .ok false := by
  unfold fixedClick
  exact plainly_eq_false plain (isOneOf_eq_false written foreign)

theorem showOverlay_refuses (written : ∀ c ∈ s, alphabet c = true) (plain : Utterance.plain s = s)
    {phrases : List String} (foreign : phrases.all (isForeign alphabet) = true)
    (id : Nat) (name : String) (kind : OverlayKind) (description : String)
    (options : Option Tree) :
    (showOverlay id name kind phrases description options).accepts (String.ofList s) =
      .ok false := by
  unfold showOverlay
  exact plainly_eq_false plain (isOneOf_eq_false written foreign)

/-! ## Commands that look for more than a phrase -/

theorem typeText_refuses (written : ∀ c ∈ s, alphabet c = true) (plain : Utterance.plain s = s)
    (foreign : isForeign alphabet "type " = true) (id : Nat) (symbols : Symbols) :
    (typeText id symbols).accepts (String.ofList s) = .ok false := by
  unfold typeText
  dsimp only
  refine plainly_eq_false plain ?_
  have none_ : after? Symbols.typeLead s = none :=
    Option.not_isSome_iff_eq_none.1 (Bool.eq_false_iff.1 (leads_eq_false written foreign))
  rw [dictated?, none_]
  rfl

theorem typeSymbol_refuses (written : ∀ c ∈ s, alphabet c = true) (plain : Utterance.plain s = s)
    (foreign : isForeign alphabet "type " = true) {symbols : Symbols}
    (names : symbols.keys.all (isForeign alphabet) = true) (id : Nat) :
    (typeSymbol id symbols).accepts (String.ofList s) = .ok false := by
  have none_ : after? Symbols.typeLead s = none :=
    Option.not_isSome_iff_eq_none.1 (Bool.eq_false_iff.1 (leads_eq_false written foreign))
  show Except.ok (symbols.spoken? (String.ofList s)).isSome = .ok false
  rw [Symbols.spoken?, Symbols.nameIn, String.toList_ofList, plain, none_]
  dsimp only
  rw [get?_eq_none_of_isForeign written names]
  rfl

theorem homeEnd_refuses (written : ∀ c ∈ s, alphabet c = true) (plain : Utterance.plain s = s)
    (foreign : ("line start" :: "line end" :: (documentStartPhrases ++ documentEndPhrases)).all
      (isForeign alphabet) = true) (id : Nat) :
    (homeEnd id).accepts (String.ofList s) = .ok false := by
  unfold homeEnd
  dsimp only
  refine plainly_eq_false plain ?_
  rw [List.all_cons, List.all_cons, List.all_append, Bool.and_eq_true, Bool.and_eq_true,
    Bool.and_eq_true] at foreign
  obtain ⟨lineStart, lineEnd, documentStart, documentEnd⟩ := foreign
  have ne {phrase : String} (f : isForeign alphabet phrase = true) : s ≠ phrase.toList := by
    intro equal
    exact ne_of_isForeign written f (by rw [equal, String.ofList_toList])
  rw [jumpTarget?, if_neg (ne lineStart), if_neg (ne lineEnd),
    any_mentions_eq_false written documentStart, any_mentions_eq_false written documentEnd]
  rfl

/-- Two runs of digits have a hyphen between them or they are no span. -/
theorem isDigitSpan_eq_false (none_ : '-' ∉ s) : isDigitSpan s = false := by
  have part : '-' ∉ (s.dropWhile Char.isDigit).dropWhile isBlank := fun h =>
    none_ ((List.dropWhile_sublist _).subset ((List.dropWhile_sublist _).subset h))
  rw [isDigitSpan, List.span_eq_takeWhile_dropWhile]
  dsimp only
  split
  · rename_i rest h
    rw [h] at part
    exact absurd List.mem_cons_self part
  · rfl

/-- A text that starts with none of the words for a screenshot asks for none. -/
theorem referenceScreenshot_refuses (written : ∀ c ∈ s, alphabet c = true)
    (plain : Utterance.plain s = s)
    (foreign : ["reference", "paste", "latest", "screen", "green"].all (isForeign alphabet) = true)
    (id : Nat) (store : ScreenshotStore) :
    (referenceScreenshot id store).accepts (String.ofList s) = .ok false := by
  have none_ {ws : List String} (h : ws.all (isForeign alphabet) = true) {t : List Char}
      (part : ∀ c ∈ t, c ∈ s) : ScreenshotRequest.afterOneOf? ws t = none := by
    refine List.findSome?_eq_none_iff.2 fun p hp => ?_
    have missing := leads_eq_false (fun c hc => written c (part c hc)) (List.all_eq_true.1 h p hp)
    exact Option.not_isSome_iff_eq_none.1 (Bool.eq_false_iff.1 missing)
  have split : (["reference", "paste", "latest"] ++ ["screen", "green"]).all
      (isForeign alphabet) = true := foreign
  rw [List.all_append, Bool.and_eq_true] at split
  have lead := none_ split.1 (t := s) fun c hc => hc
  have shot := none_ split.2 (t := s.dropWhile isBlank) fun c hc =>
    (List.dropWhile_sublist _).subset hc
  have request : ScreenshotRequest.of? (String.ofList s) = none := by
    rw [ScreenshotRequest.of?, String.toList_ofList, plain, ScreenshotRequest.ofPlain?, lead]
    dsimp only [Option.getD_none]
    rw [ScreenshotRequest.afterShot?, shot]
    rfl
  show Except.ok (ScreenshotRequest.of? (String.ofList s)).isSome = .ok false
  rw [request]
  rfl

end Alphabet

end VoiceControl.Command
