import VoiceControl.Proofs.Number.Fractions
import VoiceControl.Proofs.Text.CommonUnits
import VoiceControl.Speech.Lexicon

/-!
# What a likeness says

The likeness of two texts is the share of their units that the found blocks match, rounded once. The
rounding does not blur the two ends: a likeness of one means equal texts and a likeness of zero
means texts without a common unit. Two texts have the same units only if they are the same text, so
this holds for texts as well as for their units.
-/

namespace VoiceControl

open Text

/-! ## Texts and their units -/

namespace Text

/-- No character stands for half of a surrogate pair. -/
theorem unitsOf_prefix_free {c d : Char} {x y : List Nat}
    (same : unitsOf c ++ x = unitsOf d ++ y) : c = d ∧ x = y := by
  have valid (c : Char) : c.toNat < 0xD800 ∨ 0xDFFF < c.toNat ∧ c.toNat < 0x110000 := c.valid
  have hc := valid c
  have hd := valid d
  suffices h : c.toNat = d.toNat ∧ x = y from ⟨Char.toNat_inj.1 h.1, h.2⟩
  unfold unitsOf at same
  dsimp only at same
  -- a unit that is a character of its own is never the first half of a pair
  split at same <;> split at same <;>
    simp only [List.cons_append, List.nil_append, List.cons.injEq] at same
  · exact same
  · omega
  · omega
  · exact ⟨by omega, same.2.2⟩

theorem unitsOf_ne_nil (c : Char) : unitsOf c ≠ [] := by
  unfold unitsOf
  dsimp only
  split <;> exact List.cons_ne_nil _ _

/-- A text is determined by its units. -/
theorem units_inj {s t : List Char} : units s = units t ↔ s = t := by
  refine ⟨fun same => ?_, congrArg units⟩
  induction s generalizing t with
  | nil =>
      cases t with
      | nil => rfl
      | cons d t => exact absurd (List.append_eq_nil_iff.1 same.symm).1 (unitsOf_ne_nil d)
  | cons c s ih =>
      cases t with
      | nil => exact absurd (List.append_eq_nil_iff.1 same).1 (unitsOf_ne_nil c)
      | cons d t =>
          obtain ⟨rfl, rest⟩ := unitsOf_prefix_free same
          rw [ih rest]

end Text

/-! ## The share as a number -/

namespace Similarity

variable {a b : List Nat}

/-- The units of a sequence are few enough to be counted exactly. Those of every text are. -/
def WithinLimit (a : List Nat) : Prop := a.length < Number.exactLimit

instance : Decidable (WithinLimit a) := inferInstanceAs (Decidable (_ < _))

/-- A number is a sound measure of what two sequences of units have in common. -/
structure SoundMeasure (a b : List Nat) (r : Number) : Prop where
  at_least : Number.le 0 r
  at_most : r.le 1
  eq_one_iff : r = 1 ↔ a = b
  eq_zero_iff : r = 0 ↔ (∀ x ∈ a, x ∉ b) ∧ ¬ (a = [] ∧ b = [])
  /-- The found blocks, in their order, spell a subsequence of both sequences, and nothing else is
  counted. -/
  common : ∃ ks : List Block, ks.Perm (foundBlocks a b [.whole a b]) ∧
    spelled b Block.right ks = spelled a Block.left ks ∧
    (spelled a Block.left ks).Sublist a ∧ (spelled a Block.left ks).Sublist b ∧
    (spelled a Block.left ks).length = matchedCount a b [.whole a b] 0

theorem share_den_le (some_ : a.length + b.length ≠ 0) :
    (share a b).den ≤ a.length + b.length := by
  have divides :=
    Rat.den_dvd (2 * matchedCount a b [.whole a b] 0 : Nat) (a.length + b.length : Nat)
  rw [share, if_neg some_]
  exact Nat.le_of_dvd (Nat.pos_of_ne_zero some_) (Int.natCast_dvd_natCast.1 divides)

theorem share_den_lt (ha : WithinLimit a) (hb : WithinLimit b) : (share a b).den < 2 ^ 54 := by
  by_cases none_ : a.length + b.length = 0
  · rw [share, if_pos none_]
    decide
  · have few := share_den_le none_
    unfold WithinLimit Number.exactLimit at ha hb
    omega

/-- The rounded share of two sequences is a sound measure of what they have in common. -/
theorem soundMeasure_share (ha : WithinLimit a) (hb : WithinLimit b) :
    SoundMeasure a b (Number.ofRat (share a b)) := by
  obtain ⟨⟨least, most⟩, one, zero⟩ := share_bounds a b
  obtain ⟨r, value, ⟨r_least, r_most⟩, ends⟩ := Number.exists_ofRat_eq_share least most
  obtain ⟨r_one, r_zero⟩ := ends (share_den_lt ha hb)
  obtain ⟨ks, perm, aligned, length⟩ := exists_aligned a b
  have one_eq : (1 : Number) = .finite 1 := by decide
  have zero_eq : (0 : Number) = .finite 0 := by decide
  rw [value]
  constructor
  case at_least => simpa [zero_eq, Number.le, Number.lt] using r_least
  case at_most => simpa [one_eq, Number.le, Number.lt] using r_most
  case eq_one_iff => rw [one_eq, Number.finite.injEq, r_one, one]
  case eq_zero_iff => rw [zero_eq, Number.finite.injEq, r_zero, zero]
  case common => exact ⟨ks, perm, aligned.spelled_eq, aligned.sublist.1, aligned.sublist.2, length⟩

end Similarity

open Similarity

theorem similarity_eq (s t : List Char) :
    similarity s t = Number.ofRat (share (units s) (units t)) := rfl

/-- The likeness of two texts is a sound measure of what they have in common, and it is full exactly
if they are equal. So the likeness of normalised texts is full exactly if those are. -/
theorem similarity_is_sound :
    (∀ a b : List Nat, WithinLimit a → WithinLimit b →
      SoundMeasure a b (Number.ofRat (share a b))) ∧
    (∀ s t : List Char, WithinLimit (units s) → WithinLimit (units t) →
      SoundMeasure (units s) (units t) (similarity s t) ∧ (similarity s t = 1 ↔ s = t)) ∧
    ∀ s t : List Char, WithinLimit (units (Lexicon.normalize s)) →
      WithinLimit (units (Lexicon.normalize t)) →
      (Lexicon.fuzzyLikeness s t = 1 ↔ Lexicon.normalize s = Lexicon.normalize t) := by
  have texts (s t : List Char) (hs : WithinLimit (units s)) (ht : WithinLimit (units t)) :
      SoundMeasure (units s) (units t) (similarity s t) ∧ (similarity s t = 1 ↔ s = t) := by
    have sound := soundMeasure_share hs ht
    rw [← similarity_eq] at sound
    exact ⟨sound, sound.eq_one_iff.trans units_inj⟩
  exact ⟨fun a b => soundMeasure_share, texts, fun s t hs ht => (texts _ _ hs ht).2⟩

/-- "birds" is not quite "bird". -/
theorem similarity_bird_birds :
    WithinLimit (units "bird".toList) ∧ WithinLimit (units "birds".toList) ∧
      Number.le 0 (similarity "bird".toList "birds".toList) ∧
      similarity "bird".toList "birds".toList ≠ 1 ∧
      Lexicon.fuzzyLikeness "Bird!".toList " bird".toList = 1 := by
  have bird : WithinLimit (units "bird".toList) := by decide
  have birds : WithinLimit (units "birds".toList) := by decide
  obtain ⟨sound, equal⟩ := similarity_is_sound.2.1 _ _ bird birds
  refine ⟨bird, birds, sound.at_least, fun full => absurd (equal.1 full) (by decide), ?_⟩
  exact (similarity_is_sound.2.2 _ _ (by decide) (by decide)).2 (by decide)

end VoiceControl
