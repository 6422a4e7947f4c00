import Mathlib.Data.List.Induction
import VoiceControl.Path
import VoiceControl.Proofs.Text.Gluing

/-!
# Paths into a directory

A name is joined to the path of a directory, and the whole is put in normal form. From any working
directory, that path leads to the name inside the directory that the directory's own path leads to:
going up in a path and putting the path in normal form may be done in either order.

* `foldl_step_reduce`: a relative path leads to the same place as its normal form.
* `resolve_join`: where a name that is joined to the path of a directory leads to.
-/

namespace VoiceControl.Path

/-- A segment that is the name of something, and no step to a directory that is known. -/
structure Names (segment : String) : Prop where
  ne_empty : segment ≠ ""
  ne_current : segment ≠ "."
  ne_parent : segment ≠ ".."
  unbroken : '/' ∉ segment.toList

/-- The absolute path of a name inside a directory with an absolute path. -/
def within (directory name : String) : String :=
  (if directory = "/" then "/" else directory ++ "/") ++ name

variable {path directory name s : String} {ss soFar : List String} {absolute : Bool}

/-! ## Segments -/

theorem segments_append_slash (a b : String) :
    segments (a ++ "/" ++ b) = segments a ++ segments b := by
  have whole : (a ++ "/" ++ b).toList = a.toList ++ '/' :: b.toList := by simp
  rw [segments, whole, List.splitOnP_append_cons _ _ (by rfl), List.map_append]
  rfl

theorem segments_of_unbroken (unbroken : '/' ∉ s.toList) : segments s = [s] := by
  have kept : ∀ c ∈ s.toList, (c == '/') = false := fun c hc =>
    beq_false_of_ne fun slash => unbroken (slash ▸ hc)
  rw [segments, List.splitOnP_eq_singleton kept]
  exact congrArg (· :: []) (String.ofList_toList)

/-- Segments with separators between them are the segments of the whole. -/
theorem segments_intercalate (some_ : ss ≠ []) (unbroken : ∀ s ∈ ss, '/' ∉ s.toList) :
    segments ("/".intercalate ss) = ss := by
  have parts : (['/'].intercalate (ss.map String.toList)).splitOn '/' = ss.map String.toList :=
    List.splitOn_intercalate '/' (by simpa using unbroken) (by simpa using some_)
  rw [segments, String.toList_intercalate]
  show ((['/'].intercalate (ss.map String.toList)).splitOn '/').map String.ofList = ss
  rw [parts, List.map_map]
  exact (List.map_congr_left fun s _ => String.ofList_toList).trans (List.map_id ss)

theorem unbroken_of_mem_segments (h : s ∈ segments path) : '/' ∉ s.toList := by
  obtain ⟨part, mem, rfl⟩ := List.mem_map.1 h
  rw [String.toList_ofList]
  intro slash
  have kept := (Text.exists_mem_splitOnP_iff.1 ⟨part, mem, slash⟩).2
  exact absurd kept (by decide)

/-! ## Steps -/

theorem step_names (h : Names s) (absolute : Bool) (soFar : List String) :
    step absolute soFar s = s :: soFar := by
  unfold step
  rw [if_neg (not_or.2 ⟨h.ne_empty, h.ne_current⟩), if_neg h.ne_parent]

theorem foldl_step_names (h : ∀ s ∈ ss, Names s) (absolute : Bool) (soFar : List String) :
    ss.foldl (step absolute) soFar = ss.reverse ++ soFar := by
  induction ss generalizing soFar with
  | nil => rfl
  | cons s ss ih =>
      obtain ⟨here, later⟩ := List.forall_mem_cons.1 h
      rw [List.foldl_cons, step_names here, ih later, List.reverse_cons, List.append_assoc]
      rfl

/-- Names behind the root are in normal form. -/
theorem reduce_names (h : ∀ s ∈ ss, Names s) : reduce true ("" :: ss) = ss := by
  rw [reduce, List.foldl_cons]
  show (ss.foldl (step true) []).reverse = ss
  rw [foldl_step_names h, List.append_nil, List.reverse_reverse]

/-- The segments so far are names, or steps up where there is no root. -/
def Reduced (absolute : Bool) (soFar : List String) : Prop :=
  ∀ s ∈ soFar, Names s ∨ absolute = false ∧ s = ".."

theorem Reduced.step (h : Reduced absolute soFar) (unbroken : '/' ∉ s.toList) :
    Reduced absolute (Path.step absolute soFar s) := by
  unfold Path.step
  split
  · exact h
  · rename_i moves
    split
    · rename_i up
      subst up
      split
      · cases absolute with
        | true => exact nofun
        | false => exact fun t mem => .inr ⟨rfl, List.mem_singleton.1 mem⟩
      · rename_i last rest
        obtain ⟨top, below⟩ := List.forall_mem_cons.1 h
        split
        · rename_i twice
          subst twice
          refine List.forall_mem_cons.2 ⟨?_, h⟩
          exact .inr ⟨(top.resolve_left fun n => n.ne_parent rfl).1, rfl⟩
        · exact below
    · rename_i stays
      obtain ⟨nonempty, current⟩ := not_or.1 moves
      exact List.forall_mem_cons.2 ⟨.inl ⟨nonempty, current, stays, unbroken⟩, h⟩

theorem Reduced.foldl (h : Reduced absolute soFar) (unbroken : ∀ s ∈ ss, '/' ∉ s.toList) :
    Reduced absolute (ss.foldl (Path.step absolute) soFar) := by
  induction ss generalizing soFar with
  | nil => exact h
  | cons s ss ih =>
      obtain ⟨here, later⟩ := List.forall_mem_cons.1 unbroken
      exact ih (h.step here) later

theorem reduced_segments (absolute : Bool) (path : String) :
    Reduced absolute ((segments path).foldl (step absolute) []) :=
  Reduced.foldl nofun fun _ => unbroken_of_mem_segments

/-- From the root, all segments in normal form are names. -/
theorem Reduced.names (h : Reduced true soFar) : ∀ s ∈ soFar, Names s := fun s mem =>
  (h s mem).resolve_right fun up => Bool.noConfusion up.1

/-- One more step after a way in normal form leads to where it leads in its normal form. -/
theorem foldl_reverse_step (h : Reduced false soFar) (s : String) (start : List String) :
    (step false soFar s).reverse.foldl (step true) start =
      step true (soFar.reverse.foldl (step true) start) s := by
  have pushed (t : String) (ts : List String) : (t :: ts).reverse.foldl (step true) start =
      step true (ts.reverse.foldl (step true) start) t := by
    rw [List.reverse_cons, List.foldl_append]
    rfl
  by_cases moves : s = "" ∨ s = "."
  · have still (absolute : Bool) (ts : List String) : step absolute ts s = ts := if_pos moves
    rw [still, still]
  · by_cases up : s = ".."
    · subst up
      cases soFar with
      | nil => exact pushed ".." []
      | cons last rest =>
          by_cases twice : last = ".."
          · have more : step false (last :: rest) ".." = ".." :: last :: rest := by
              simp [step, twice]
            rw [more]
            exact pushed ".." (last :: rest)
          · -- going up takes the last name away, in both orders
            have name : Names last :=
              (h last List.mem_cons_self).resolve_right fun parent => twice parent.2
            have less (absolute : Bool) (ts : List String) :
                step absolute (last :: ts) ".." = ts := by
              simp [step, twice]
            rw [less, pushed, step_names name, less]
    · have more : step false soFar s = s :: soFar := by
        unfold step
        rw [if_neg moves, if_neg up]
      rw [more]
      exact pushed s soFar

/-- A relative path leads to the same place as its normal form, wherever it starts. -/
theorem foldl_step_reduce (unbroken : ∀ s ∈ ss, '/' ∉ s.toList) (start : List String) :
    (reduce false ss).foldl (step true) start = ss.foldl (step true) start := by
  induction ss using List.reverseRecOn with
  | nil => rfl
  | append_singleton ss s ih =>
      have before : ∀ t ∈ ss, '/' ∉ t.toList := fun t mem =>
        unbroken t (List.mem_append_left _ mem)
      have reduced : Reduced false (ss.foldl (step false) []) := Reduced.foldl nofun before
      rw [reduce, List.foldl_append, List.foldl_append, ← ih before]
      exact foldl_reverse_step reduced s start

/-! ## A name in a directory -/

theorem isAbsolute_append (named : directory ≠ "") (s : String) :
    isAbsolute (directory ++ s) = isAbsolute directory := by
  obtain ⟨c, r, front⟩ := List.exists_cons_of_ne_nil (mt String.toList_eq_nil_iff.1 named)
  rw [isAbsolute, isAbsolute, String.toList_append, front]
  rfl

theorem reduce_concat (h : Names name) (absolute : Bool) (ss : List String) :
    reduce absolute (ss ++ [name]) = reduce absolute ss ++ [name] := by
  rw [reduce, List.foldl_append]
  show (step absolute _ name).reverse = _
  rw [step_names h, List.reverse_cons]
  rfl

theorem intercalate_concat (ss : List String) (s : String) :
    "/".intercalate (ss ++ [s]) = (if ss = [] then "" else "/".intercalate ss ++ "/") ++ s := by
  by_cases none_ : ss = []
  · subst none_
    rw [List.nil_append, if_pos rfl, String.intercalate_singleton, String.empty_append]
  · rw [if_neg none_, String.intercalate_append_of_ne_nil none_ (List.cons_ne_nil _ _),
      String.intercalate_singleton]

theorem intercalate_concat_ne_empty (ss : List String) (h : s ≠ "") :
    "/".intercalate (ss ++ [s]) ≠ "" := by
  rw [intercalate_concat, Ne, String.append_eq_empty_iff]
  exact fun both => h both.2

/-- The path of a directory in normal form with a name behind it. -/
theorem join_eq (named : directory ≠ "") (h : Names name) :
    join directory name = (if isAbsolute directory then "/" else "") ++
      "/".intercalate (reduce (isAbsolute directory) (segments directory) ++ [name]) := by
  have whole : directory ++ "/" ++ name ≠ "" := by
    simp [h.ne_empty]
  have root : isAbsolute (directory ++ "/" ++ name) = isAbsolute directory := by
    rw [String.append_assoc]
    exact isAbsolute_append named _
  have parts : reduce (isAbsolute directory) (segments (directory ++ "/" ++ name)) =
      reduce (isAbsolute directory) (segments directory) ++ [name] := by
    rw [segments_append_slash, segments_of_unbroken h.unbroken, reduce_concat h]
  have ends : ((directory ++ "/" ++ name).toList.getLast? == some '/') = false := by
    have last : (directory ++ "/" ++ name).toList.getLast? = name.toList.getLast? := by
      rw [String.toList_append, List.getLast?_append]
      refine Option.or_of_isSome ?_
      simpa using h.ne_empty
    rw [last]
    exact beq_false_of_ne fun slash => h.unbroken (List.mem_of_getLast? slash)
  rw [join, if_neg named, if_neg h.ne_empty, normalise]
  simp only [root, parts, ends]
  rw [if_neg whole, if_neg (intercalate_concat_ne_empty _ h.ne_empty), if_neg Bool.false_ne_true,
    String.append_empty]

theorem join_ne_empty (named : directory ≠ "") (h : Names name) : join directory name ≠ "" := by
  rw [join_eq named h, Ne, String.append_eq_empty_iff]
  exact fun both => intercalate_concat_ne_empty _ h.ne_empty both.2

theorem within_root (some_ : ∀ s ∈ ss, Names s) :
    within ("/" ++ "/".intercalate ss) name = "/" ++ "/".intercalate (ss ++ [name]) := by
  rw [within, intercalate_concat]
  rcases List.eq_nil_or_concat ss with rfl | ⟨front, last, rfl⟩
  · rfl
  · rw [List.concat_eq_append] at some_ ⊢
    have below : "/" ++ "/".intercalate (front ++ [last]) ≠ "/" := by
      have named := (some_ last (by simp)).ne_empty
      simpa using intercalate_concat_ne_empty front named
    rw [if_neg below, if_neg (by simp)]
    simp only [String.append_assoc]

theorem segments_slash_append (path : String) : segments ("/" ++ path) = "" :: segments path := by
  have parts := segments_append_slash "" path
  rwa [String.empty_append, segments_of_unbroken (s := "") List.not_mem_nil] at parts

theorem eq_slash_append (root : isAbsolute path = true) : ∃ rest, path = "/" ++ rest := by
  have first : path.toList.head? = some '/' := eq_of_beq root
  obtain ⟨rest, front⟩ := List.head?_eq_some_iff.1 first
  refine ⟨String.ofList rest, String.toList_inj.1 ?_⟩
  simp [front]

/-- Segments of which none is empty do not make an absolute path. -/
theorem isAbsolute_intercalate (some_ : ss ≠ []) (unbroken : ∀ s ∈ ss, '/' ∉ s.toList)
    (full : "" ∉ ss) : isAbsolute ("/".intercalate ss) = false := by
  refine Bool.eq_false_iff.2 fun root => full ?_
  obtain ⟨rest, path⟩ := eq_slash_append root
  rw [← segments_intercalate some_ unbroken, path, segments_slash_append]
  exact List.mem_cons_self

/-- Segments in normal form are not empty and hold no separator. -/
theorem Reduced.segment (h : Reduced absolute soFar) (mem : s ∈ soFar) :
    s ≠ "" ∧ '/' ∉ s.toList := by
  rcases h s mem with name | ⟨-, rfl⟩
  · exact ⟨name.ne_empty, name.unbroken⟩
  · decide

/-- A name that is joined to the path of a directory leads to the name inside that directory. -/
theorem resolve_join (working : String) (named : directory ≠ "") (h : Names name) :
    resolve working (join directory name) = within (resolve working directory) name := by
  -- both ways end with the name, so the ways to the directory are compared
  suffices way : ∃ ss, (∀ s ∈ ss, Names s) ∧ resolve working directory = "/" ++ "/".intercalate ss ∧
      resolve working (join directory name) = "/" ++ "/".intercalate (ss ++ [name]) by
    obtain ⟨ss, names, same, joined⟩ := way
    rw [joined, same, within_root names]
  have rooted (path : String) : ∀ s ∈ reduce true (segments path), Names s := fun s mem =>
    (reduced_segments true path).names s (List.mem_reverse.1 mem)
  have join := join_eq named h
  have parts : ∀ s ∈ reduce (isAbsolute directory) (segments directory) ++ [name],
      s ≠ "" ∧ '/' ∉ s.toList := by
    intro s mem
    rcases List.mem_append.1 mem with before | last
    · exact (reduced_segments _ directory).segment (List.mem_reverse.1 before)
    · exact List.mem_singleton.1 last ▸ ⟨h.ne_empty, h.unbroken⟩
  have split := segments_intercalate (List.concat_ne_nil _ _) fun s mem => (parts s mem).2
  cases root : isAbsolute directory with
  | true =>
      rw [root] at join parts split
      refine ⟨reduce true (segments directory), rooted directory, ?_, ?_⟩
      · rw [resolve, root]
        rfl
      · have names : ∀ s ∈ reduce true (segments directory) ++ [name], Names s :=
          List.forall_mem_append.2 ⟨rooted directory, List.forall_mem_singleton.2 h⟩
        have absolute : isAbsolute (Path.join directory name) = true := by
          rw [join, if_pos rfl]
          simp [isAbsolute]
        rw [resolve, absolute, if_pos rfl, join, if_pos rfl, segments_slash_append, split,
          reduce_names names]
  | false =>
      rw [root] at join parts split
      rw [if_neg Bool.false_ne_true, String.empty_append] at join
      have relative := isAbsolute_intercalate (List.concat_ne_nil _ _) (fun s mem => (parts s mem).2)
        fun empty => (parts "" empty).1 rfl
      refine ⟨reduce true (segments (working ++ "/" ++ directory)), rooted _, ?_, ?_⟩
      · rw [resolve, root]
        rfl
      · have way : reduce true (segments working ++ reduce false (segments directory)) =
            reduce true (segments working ++ segments directory) := by
          rw [reduce, List.foldl_append, foldl_step_reduce fun _ => unbroken_of_mem_segments,
            ← List.foldl_append]
          rfl
        rw [join, resolve, relative, if_neg Bool.false_ne_true, segments_append_slash,
          segments_append_slash, split, ← List.append_assoc, reduce_concat h, way]

end VoiceControl.Path
