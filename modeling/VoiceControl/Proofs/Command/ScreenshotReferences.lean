import VoiceControl.Command.Screenshot
import VoiceControl.Proofs.Command.Reporting
import VoiceControl.Proofs.Files.Directory
import VoiceControl.Proofs.Number.Natural
import VoiceControl.Proofs.Text.Numerals

/-!
# References to screenshots

A screenshot is asked for by its number, the newest being the first, or the newest few are asked for
together. What is given are paths of the files that the directory of screenshots really has.

* `isScreenshotName_iff`: which names are those of screenshots.
* `of?_singleText`, `of?_newestText`: how the utterances are read.
* `execute_of_list`: what is given of the screenshots that are listed.
* `references_follow_directory`: what is listed, and what the utterances give.
-/

namespace VoiceControl

open VoiceControl.Text

namespace ScreenshotStore

/-! ## The names -/

/-- The name of a screenshot, with nothing that ends a line in it. -/
def IsShot (name : String) : Prop :=
  ∃ middle : List Char, name.toList = "screenshot_".toList ++ middle ++ ".png".toList ∧
    ∀ c ∈ middle, c ∉ ['\n', '\r', '\u2028', '\u2029']

theorem isScreenshotName_iff (name : String) : isScreenshotName name = true ↔ IsShot name := by
  have inLine (middle : List Char) :
      (!middle.any fun c => c == '\n' || c == '\r' || c == '\u2028' || c == '\u2029') = true ↔
        ∀ c ∈ middle, c ∉ ['\n', '\r', '\u2028', '\u2029'] := by
    simp [and_assoc]
  unfold isScreenshotName
  constructor
  · intro shot
    split at shot
    · cases shot
    · rename_i rest start
      split at shot
      · cases shot
      · rename_i middle finish
        refine ⟨middle.reverse, ?_, fun c hc => (inLine middle).1 shot c (List.mem_reverse.1 hc)⟩
        rw [after?_eq_some_iff, List.reverse_eq_iff, List.reverse_append,
          List.reverse_reverse] at finish
        rw [after?_eq_some_iff.1 start, finish, List.append_assoc]
  · rintro ⟨middle, split, kept⟩
    have start : after? "screenshot_".toList name.toList = some (middle ++ ".png".toList) := by
      rw [after?_eq_some_iff, split, List.append_assoc]
    have finish : after? ".png".toList.reverse (middle ++ ".png".toList).reverse =
        some middle.reverse := by
      rw [after?_eq_some_iff, List.reverse_append]
    rw [start]
    dsimp only
    rw [finish]
    exact (inLine _).2 fun c hc => kept c (List.mem_reverse.1 hc)

/-- The name of a screenshot is no step to a directory that is known. -/
theorem dotless_of_isScreenshotName (name : String) (shot : isScreenshotName name = true) :
    name ≠ "." ∧ name ≠ ".." := by
  constructor <;> rintro rfl <;> exact absurd shot (by decide)

end ScreenshotStore

namespace ScreenshotRequest

/-! ## The utterances -/

section Digits

variable (k : Numeral)

/-- A numeral does not begin with a word. -/
theorem after?_digits {w : List Char} (letter : w.head?.any (!·.isDigit) = true) :
    after? w k.digits = none := by
  cases w with
  | nil => cases letter
  | cons c w =>
      obtain ⟨d, r, digits⟩ := List.exists_cons_of_ne_nil k.ne_nil
      have other : c ≠ d := by
        rintro rfl
        rw [List.head?_cons, Option.any_some, k.all_digit c (digits ▸ List.mem_cons_self)] at letter
        cases letter
      rw [digits, after?, if_neg other]

theorem digits?_digits : digits? k.digits = some (k.value : Number) := by
  have kept : (!k.digits.isEmpty && k.digits.all Char.isDigit) = true := by
    simpa using ⟨k.ne_nil, k.all_digit⟩
  rw [digits?, if_pos kept]
  rfl

/-- Commands see words with a numeral behind them as they are. -/
theorem plain_before_digits {ws : List (List Char)} (words : ∀ w ∈ ws, PlainWord w)
    (some_ : ws ≠ []) :
    Utterance.plain (unwords ws ++ ' ' :: k.digits) = unwords ws ++ ' ' :: k.digits := by
  have all : ∀ w ∈ ws ++ [k.digits], PlainWord w := by
    intro w hw
    rcases List.mem_append.1 hw with word | digits
    · exact words w word
    · rw [List.mem_singleton.1 digits]
      exact k.plainWord
  have plain := plain_unwords all (List.append_ne_nil_of_left_ne_nil some_ _)
  rwa [unwords_append some_, spaced, unwords_singleton] at plain

end Digits

/-- What may stand before a reference to one screenshot. -/
def leads : List String := ["", "reference ", "paste ", "latest "]

/-- An utterance that refers to one screenshot by its number. -/
def singleText (lead : String) (k : Numeral) : String :=
  lead ++ "screenshot " ++ String.ofList k.digits

/-- An utterance that refers to the newest few screenshots. -/
def newestText (n : Numeral) : String := "screenshot last " ++ String.ofList n.digits

/-- What follows the words for a screenshot, with or without words that lead to them. -/
def behindShot? (clean : List Char) : Option (List Char) :=
  afterShot? (((afterOneOf? ["reference", "paste", "latest"] clean).getD clean).dropWhile isBlank)

/-- Behind the words for a screenshot, a numeral is read as the number of one. -/
theorem ofPlain?_of_digits {clean : List Char} {k : Numeral}
    (shot : behindShot? clean = some (' ' :: k.digits)) :
    ofPlain? clean = some (.single k.value) := by
  have bare := k.dropWhile_isBlank_digits
  have behind : (' ' :: k.digits).dropWhile isBlank = k.digits := bare
  have path : afterOneOf? ["path", "file"] k.digits = none := by
    rw [afterOneOf?, List.findSome?_cons, after?_digits k rfl, List.findSome?_cons,
      after?_digits k rfl, List.findSome?_nil]
  have last : lastCount? k.digits = none := by
    rw [lastCount?, after?_digits k rfl]
    rfl
  rw [behindShot?] at shot
  unfold ofPlain?
  dsimp only
  rw [shot]
  simp only [Option.bind_eq_bind, Option.bind_some, behind, path, Option.getD_none, bare, last]
  split
  · rename_i none_
    exact absurd none_ k.ne_nil
  · rw [digits?_digits]
    rfl

/-- Behind the words for a screenshot, "last" and a numeral are read as how many. -/
theorem ofPlain?_of_last {clean : List Char} {n : Numeral}
    (shot : behindShot? clean = some (" last ".toList ++ n.digits)) :
    ofPlain? clean = some (.newest n.value) := by
  have last : lastCount? ("last ".toList ++ n.digits) = some (n.value : Number) := by
    have read : lastCount? ("last ".toList ++ n.digits) =
        digits? (n.digits.dropWhile isBlank) := rfl
    rw [read, n.dropWhile_isBlank_digits, digits?_digits]
  have bare : (" last ".toList ++ n.digits).dropWhile isBlank = "last ".toList ++ n.digits := rfl
  have path : afterOneOf? ["path", "file"] ("last ".toList ++ n.digits) = none := rfl
  have still : ("last ".toList ++ n.digits).dropWhile isBlank = "last ".toList ++ n.digits := rfl
  rw [behindShot?] at shot
  unfold ofPlain?
  dsimp only
  rw [shot]
  simp only [Option.bind_eq_bind, Option.bind_some, bare, path, Option.getD_none, still, last]
  rfl

/-- An utterance of words and a numeral behind them is read as it is. -/
theorem of?_eq_ofPlain? {text : String} {k : Numeral} (ws : List (List Char))
    (words : ∀ w ∈ ws, PlainWord w) (some_ : ws ≠ [])
    (spelled : text.toList = unwords ws ++ ' ' :: k.digits) :
    of? text = ofPlain? (unwords ws ++ ' ' :: k.digits) := by
  rw [of?, spelled, plain_before_digits k words some_]

theorem of?_singleText {lead : String} (known : lead ∈ leads) (k : Numeral) :
    of? (singleText lead k) = some (.single k.value) := by
  have spelled : (singleText lead k).toList =
      lead.toList ++ ("screenshot ".toList ++ k.digits) := by
    simp [singleText, String.toList_append]
  simp only [leads, List.mem_cons, List.not_mem_nil, or_false] at known
  rcases known with rfl | rfl | rfl | rfl
  · rw [of?_eq_ofPlain? ["screenshot".toList] (by decide) nofun spelled]
    exact ofPlain?_of_digits rfl
  · rw [of?_eq_ofPlain? ["reference".toList, "screenshot".toList] (by decide) nofun spelled]
    exact ofPlain?_of_digits rfl
  · rw [of?_eq_ofPlain? ["paste".toList, "screenshot".toList] (by decide) nofun spelled]
    exact ofPlain?_of_digits rfl
  · rw [of?_eq_ofPlain? ["latest".toList, "screenshot".toList] (by decide) nofun spelled]
    exact ofPlain?_of_digits rfl

theorem of?_newestText (n : Numeral) : of? (newestText n) = some (.newest n.value) := by
  have spelled : (newestText n).toList = "screenshot last ".toList ++ n.digits :=
    String.toList_append.trans (congrArg ("screenshot last ".toList ++ ·) String.toList_ofList)
  rw [of?_eq_ofPlain? ["screenshot".toList, "last".toList] (by decide) nofun spelled]
  exact ofPlain?_of_last rfl

/-! ## The answers -/

/-- What is given of some screenshots: the paths of the newest few, one a line, or the path of the
one that is counted, if there is one. -/
def answer (shots : List FileEntry) : ScreenshotRequest → Option String
  | .newest count => some ("\n".intercalate ((shots.take (count.cut shots.length)).map (·.path)))
  | .single index =>
      Option.map (·.path) <|
        match index.toNat? with
        | some (i + 1) => shots[i]?
        | _ => none

section Answers

variable {shots : List FileEntry} (few : shots.length < Number.exactLimit)

include few

theorem answer_newest (n : Nat) : answer shots (.newest n) =
    some ("\n".intercalate ((shots.take (min n shots.length)).map (·.path))) := by
  rw [answer, Number.take_cut_natCast few, List.take_eq_take_min]

theorem answer_single (k : Nat) : answer shots (.single k) =
    if 1 ≤ k ∧ k ≤ shots.length then shots[k - 1]?.map (·.path) else none := by
  refine (congrArg (Option.map (·.path)) (Number.entry?_natCast few k)).trans ?_
  cases k with
  | zero => rfl
  | succ i =>
      dsimp only
      split
      · rfl
      · rw [List.getElem?_eq_none (by omega)]
        rfl

end Answers

/-- A request is answered from the screenshots that are listed. -/
theorem execute_of_list {store : ScreenshotStore} {w : Workspace} {shots : List FileEntry}
    {text : String} {request : ScreenshotRequest} (id : Nat)
    (listed : store.list w.files = .ok shots) (some_ : shots ≠ [])
    (asked : of? text = some request) :
    (((Command.referenceScreenshot id store).execute text).on w).1 =
      .ok (request.answer shots) := by
  have told (detail : Entries Tree) (a : Option String) (w : Workspace) :
      ((do Command.report "ReferenceScreenshotCommand" text detail; return a : Act _).on w).1 =
        .ok a := by
    rw [Act.on_bind, Act.on_report]
    rfl
  have full : ¬ shots.isEmpty = true := by simpa using some_
  unfold Command.referenceScreenshot
  dsimp only
  rw [asked]
  dsimp only
  rw [Act.on_bind, Act.on_get]
  dsimp only
  rw [listed, Act.on_bind]
  show ((if shots.isEmpty = true then _ else _ : Act (Option String)).on w).1 = _
  rw [if_neg full]
  cases request with
  | newest count =>
      dsimp only
      split <;> exact told _ _ _
  | single index =>
      rw [answer]
      dsimp only
      cases index.toNat? with
      | none => exact told _ _ _
      | some m =>
          cases m with
          | zero => exact told _ _ _
          | succ i =>
              dsimp only [Option.bind_some]
              cases shots[i]? <;> exact told _ _ _

end ScreenshotRequest

/-- A command takes an utterance and gives an output for it. -/
def Command.Replies (c : Command) (w : Workspace) (text : String) (output : Option String) : Prop :=
  c.accepts text = .ok true ∧ ((c.execute text).on w).1 = .ok output

namespace ScreenshotStore

open ScreenshotRequest

/-- What a listing of screenshots is to hold are the files with names of screenshots. -/
theorem holds_isScreenshotName {fs : Files} {directory : String} {e : FileEntry} :
    fs.Holds directory (isScreenshotName · = true) e ↔ fs.Holds directory IsShot e := by
  have names : (isScreenshotName · = true) = IsShot :=
    funext fun name => propext (isScreenshotName_iff name)
  rw [names]

/-- No two screenshots were modified at the same time if that is so of those that are listed. -/
theorem apart_of_list {store : ScreenshotStore} {fs : Files} {shots : List FileEntry}
    (wellFormed : fs.WellFormed)
    (noFile : ∀ content modified, fs.node? store.directory ≠ some (.file content modified))
    (listed : store.list fs = .ok shots)
    (times : ∀ a ∈ shots, ∀ b ∈ shots, a.modified = b.modified → a = b) (a b : FileEntry)
    (ha : fs.Holds store.directory IsShot a) (hb : fs.Holds store.directory IsShot b) :
    a.modified = b.modified → a = b := by
  obtain ⟨found, listing, mem, -⟩ :=
    wellFormed.exists_newestFirst dotless_of_isScreenshotName noFile
  obtain rfl := Except.ok.inj (listing.symm.trans listed)
  rw [← holds_isScreenshotName, ← mem] at ha hb
  exact times a ha b hb

/-- The screenshots that are listed are exactly the files in the directory that have the name of one,
each of them once and the newest first. While there are any, the newest few of them or the one that
is counted is given for an utterance. Lists are never so long that their places are not told apart by
numbers. -/
theorem references_follow_directory (store : ScreenshotStore) (w : Workspace)
    (wellFormed : w.files.WellFormed)
    (noFile : ∀ content modified, w.files.node? store.directory ≠ some (.file content modified))
    (apart : ∀ a b, w.files.Holds store.directory IsShot a →
      w.files.Holds store.directory IsShot b → a.modified = b.modified → a = b)
    (few : w.files.nodes.length < Number.exactLimit) (id : Nat) :
    ∃ shots, store.list w.files = .ok shots ∧
      (∀ e, e ∈ shots ↔ w.files.Holds store.directory IsShot e) ∧ shots.Nodup ∧
      shots.Pairwise (fun a b => b.modified.lt a.modified = true) ∧
      (shots ≠ [] →
        (∀ n : Numeral, (Command.referenceScreenshot id store).Replies w (newestText n)
          (some ("\n".intercalate ((shots.take (min n.value shots.length)).map (·.path))))) ∧
        ∀ lead ∈ leads, ∀ k : Numeral,
          (Command.referenceScreenshot id store).Replies w (singleText lead k)
            (if 1 ≤ k.value ∧ k.value ≤ shots.length then shots[k.value - 1]?.map (·.path)
              else none)) := by
  simp only [← holds_isScreenshotName] at apart ⊢
  obtain ⟨shots, listed, mem, once, size, sorted⟩ :=
    wellFormed.newestFirst_strictly dotless_of_isScreenshotName noFile apart
  have short : shots.length < Number.exactLimit := Nat.lt_of_le_of_lt size few
  have replies {text : String} {request : ScreenshotRequest} (some_ : shots ≠ [])
      (asked : of? text = some request) :
      (Command.referenceScreenshot id store).Replies w text (request.answer shots) :=
    ⟨congrArg Except.ok (congrArg Option.isSome asked), execute_of_list id listed some_ asked⟩
  refine ⟨shots, listed, mem, once, sorted, fun some_ => ⟨fun n => ?_, fun lead known k => ?_⟩⟩
  · rw [← answer_newest short]
    exact replies some_ (of?_newestText n)
  · rw [← answer_single short]
    exact replies some_ (of?_singleText known k)

/-- Of two screenshots the one that was modified last comes first. Another file that was modified
later still is no screenshot. -/
theorem references_follow_directory_of_two :
    let store : ScreenshotStore := ⟨"shots"⟩
    let w : Workspace := {
      screen := ⟨300, 300⟩, desktop := .centred ⟨300, 300⟩, now := ⟨2024, 6, 7, 8, 9, 10⟩
      files := ⟨"/work", [("/work/shots", .directory),
        ("/work/shots/screenshot_b.png", .file "" (.finite 8)),
        ("/work/shots/notes.txt", .file "" (.finite 9)),
        ("/work/shots/screenshot_a.png", .file "" (.finite 7))]⟩ }
    let command := Command.referenceScreenshot 0 store
    store.list w.files = .ok [⟨"shots/screenshot_b.png", "screenshot_b.png", .finite 8⟩,
      ⟨"shots/screenshot_a.png", "screenshot_a.png", .finite 7⟩] ∧
    command.Replies w "screenshot last 2"
      (some "shots/screenshot_b.png\nshots/screenshot_a.png") ∧
    command.Replies w "paste screenshot 2" (some "shots/screenshot_a.png") ∧
    command.Replies w "screenshot 3" none := by
  intro store w command
  let two : Numeral := ⟨['2'], by decide, List.all_eq_true.1 rfl⟩
  let three : Numeral := ⟨['3'], by decide, List.all_eq_true.1 rfl⟩
  have there : w.files.node? "shots" = some .directory := by
    unfold w
    rfl
  have listed : store.list w.files =
      .ok [⟨"shots/screenshot_b.png", "screenshot_b.png", .finite 8⟩,
        ⟨"shots/screenshot_a.png", "screenshot_a.png", .finite 7⟩] := by
    show Files.newestFirst _ _ _ = _
    unfold Files.newestFirst
    rw [there]
    refine congrArg Except.ok (.trans (congrArg (List.mergeSort · _) ?_)
      (List.mergeSort_of_pairwise ?_))
    · unfold w store
      rfl
    · decide
  have wellFormed : w.files.WellFormed := by
    refine ⟨by decide, fun path content modified mem => ?_⟩
    simp only [w, List.mem_cons, Prod.mk.injEq, FileNode.file.injEq, reduceCtorEq, and_false,
      List.not_mem_nil, or_false, false_or] at mem
    rcases mem with ⟨-, -, rfl⟩ | ⟨-, -, rfl⟩ | ⟨-, -, rfl⟩ <;> exact ⟨_, rfl⟩
  have noFile (content : String) (modified : Number) :
      w.files.node? store.directory ≠ some (.file content modified) := by
    rw [there]
    nofun
  have apart := apart_of_list wellFormed noFile listed (by decide)
  obtain ⟨shots, listing, -, -, -, replies⟩ :=
    references_follow_directory store w wellFormed noFile apart (by decide) 0
  obtain rfl := Except.ok.inj (listing.symm.trans listed)
  obtain ⟨newest, single⟩ := replies (List.cons_ne_nil _ _)
  exact ⟨listed, newest two, single "paste " (by decide) two, single "" (by decide) three⟩

end ScreenshotStore

end VoiceControl
