import VoiceControl.Event.Bus

/-!
# Who is subscribed

A bus keeps its subscribers twice: as wrappers that it finds by topic and subscriber, and as the
listeners of its emitter. Both are kept in step, whatever is called. So who is subscribed, and in
which order, can be read off the past calls alone: a subscriber is there from the subscription that
took effect last, unless it was removed after it.

* `LawfulEmitter`: what is relied on of an emitter.
* `EventBus.InStep`: the wrappers are the listeners, and no subscriber has two of them.
* `EventBus.Records`: the subscribers are those of the past calls; `EventBus.Records.next` is the
  step.
-/

namespace VoiceControl

/-- An emitter that does what is documented of it. -/
class LawfulEmitter (E : Type) [Emitter E] : Prop where
  listeners_fresh : ∀ topic, Emitter.listeners (Emitter.fresh : E) topic = []
  listeners_on : ∀ (e : E) (topic : String) (l : Listener) (other : String),
    Emitter.listeners (Emitter.on e topic l) other =
      if other = topic then Emitter.listeners e other ++ [l] else Emitter.listeners e other
  listeners_off : ∀ (e : E) (topic : String) (l : Listener) (other : String),
    Emitter.listeners (Emitter.off e topic l) other =
      if other = topic then (Emitter.listeners e other).filter (· ≠ l)
      else Emitter.listeners e other
  listeners_removeAll : ∀ (e : E) (topic : String),
    Emitter.listeners (Emitter.removeAll e) topic = []
  count_eq : ∀ (e : E) (topic : String), Emitter.count e topic = (Emitter.listeners e topic).length

instance : LawfulEmitter Listeners where
  listeners_fresh _ := rfl
  listeners_on e topic l other := by
    show ((e.all ++ [(topic, l)]).filter (·.1 = other)).map (·.2) = _
    rw [List.filter_append, List.map_append]
    by_cases same : other = topic
    · simp [Emitter.listeners, same]
    · have apart : topic ≠ other := fun h => same h.symm
      simp [Emitter.listeners, same, apart]
  listeners_off e topic l other := by
    show (((e.all.filter (· ≠ (topic, l))).filter (·.1 = other)).map (·.2)) = _
    by_cases same : other = topic
    · subst same
      rw [if_pos rfl]
      show _ = ((e.all.filter (·.1 = other)).map (·.2)).filter (· ≠ l)
      rw [List.filter_map, List.filter_filter, List.filter_filter]
      refine congrArg (List.map _) (List.filter_congr fun p _ => ?_)
      by_cases here : p.1 = other <;> simp [Prod.ext_iff, here]
    · rw [if_neg same]
      show _ = (e.all.filter (·.1 = other)).map (·.2)
      rw [List.filter_filter]
      refine congrArg (List.map _) (List.filter_congr fun p _ => ?_)
      by_cases here : p.1 = other
      · simp [Prod.ext_iff, here, same]
      · simp [here]
  listeners_removeAll _ _ := rfl
  count_eq e topic := by
    show e.all.countP _ = ((e.all.filter _).map _).length
    rw [List.length_map, List.countP_eq_length_filter]

namespace EventBus

variable {E : Type} [Emitter E]

/-- The subscribers of a topic, in the order in which they are called. -/
def subscribers (b : EventBus E) (topic : String) : List String :=
  (Emitter.listeners b.emitter topic).map (·.subscriber)

/-! ## Wrappers and listeners -/

/-- A subscriber of a topic has a wrapper that listens to it, and there is no other listener. -/
structure InStep (b : EventBus E) : Prop where
  wrapper : ∀ topic subscriber l, (b.wrappersOf topic).get? subscriber = some l ↔
    l ∈ Emitter.listeners b.emitter topic ∧ l.subscriber = subscriber
  nodup : ∀ topic, (b.subscribers topic).Nodup

variable {b : EventBus E} {t c : String}

theorem InStep.mem_subscribers (h : b.InStep) :
    c ∈ b.subscribers t ↔ (b.wrappersOf t).has c = true := by
  rw [Entries.has, Option.isSome_iff_exists]
  constructor
  · intro mem
    obtain ⟨l, listens, rfl⟩ := List.mem_map.1 mem
    exact ⟨l, (h.wrapper t _ l).2 ⟨listens, rfl⟩⟩
  · rintro ⟨l, known⟩
    obtain ⟨listens, rfl⟩ := (h.wrapper t c l).1 known
    exact List.mem_map.2 ⟨l, listens, rfl⟩

theorem subscribe_of_known (known : (b.wrappersOf t).has c = true) : b.subscribe t c = b :=
  if_pos known

theorem subscribe_of_new (new : (b.wrappersOf t).has c = false) :
    b.subscribe t c =
      { emitter := Emitter.on b.emitter t ⟨b.made, c⟩
        wrappers := Entries.put t ((b.wrappersOf t).put c ⟨b.made, c⟩) b.wrappers
        made := b.made + 1 } :=
  if_neg (by simp [new])

theorem unsubscribe_of_unknown (unknown : (b.wrappersOf t).get? c = none) :
    b.unsubscribe t c = b := by
  simp only [unsubscribe, unknown]

theorem unsubscribe_of_known {l : Listener} (known : (b.wrappersOf t).get? c = some l) :
    b.unsubscribe t c =
      { b with
        emitter := Emitter.off b.emitter t l
        wrappers := Entries.put t ((b.wrappersOf t).remove c) b.wrappers } := by
  simp only [unsubscribe, known]

/-- The wrappers of one topic are set apart from those of the others. -/
theorem wrappersOf_put (topic : String) (ws : Entries Listener) (other : String) :
    ({ b with wrappers := Entries.put topic ws b.wrappers } : EventBus E).wrappersOf other =
      if other = topic then ws else b.wrappersOf other := by
  unfold wrappersOf
  by_cases same : other = topic
  · simp [same]
  · simp [same, Entries.get?_put_of_ne same]

theorem wrapper_subscribe (new : (b.wrappersOf t).has c = false) (topic subscriber : String) :
    ((b.subscribe t c).wrappersOf topic).get? subscriber =
      if topic = t ∧ subscriber = c then some ⟨b.made, c⟩
      else (b.wrappersOf topic).get? subscriber := by
  rw [subscribe_of_new new]
  refine (congrArg (Entries.get? subscriber) (wrappersOf_put t _ topic)).trans ?_
  by_cases here : topic = t
  · subst here
    rw [if_pos rfl]
    by_cases own : subscriber = c
    · rw [if_pos ⟨rfl, own⟩, own, Entries.get?_put_self]
    · rw [if_neg fun both => own both.2, Entries.get?_put_of_ne own]
  · rw [if_neg here, if_neg fun both => here both.1]

theorem wrapper_unsubscribe {l : Listener} (known : (b.wrappersOf t).get? c = some l)
    (topic subscriber : String) :
    ((b.unsubscribe t c).wrappersOf topic).get? subscriber =
      if topic = t ∧ subscriber = c then none else (b.wrappersOf topic).get? subscriber := by
  rw [unsubscribe_of_known known]
  refine (congrArg (Entries.get? subscriber) (wrappersOf_put t _ topic)).trans ?_
  by_cases here : topic = t
  · subst here
    rw [if_pos rfl]
    by_cases own : subscriber = c
    · rw [if_pos ⟨rfl, own⟩, own, Entries.get?_remove_self]
    · rw [if_neg fun both => own both.2, Entries.get?_remove_of_ne own]
  · rw [if_neg here, if_neg fun both => here both.1]

section Lawful

variable [LawfulEmitter E]

theorem inStep_new : ({} : EventBus E).InStep where
  wrapper topic subscriber l := by
    simp [wrappersOf, LawfulEmitter.listeners_fresh]
  nodup topic := by
    simp [subscribers, LawfulEmitter.listeners_fresh]

theorem subscribers_clear (b : EventBus E) (topic : String) : b.clear.subscribers topic = [] := by
  simp [subscribers, clear, LawfulEmitter.listeners_removeAll]

theorem inStep_clear (b : EventBus E) : b.clear.InStep where
  wrapper topic subscriber l := by
    simp [wrappersOf, clear, LawfulEmitter.listeners_removeAll]
  nodup topic := by
    simp [subscribers_clear]

/-- A new subscriber goes last; one that is there stays where it is. -/
theorem InStep.subscribers_subscribe (h : b.InStep) (t c other : String) :
    (b.subscribe t c).subscribers other =
      if other = t ∧ c ∉ b.subscribers t then b.subscribers other ++ [c]
      else b.subscribers other := by
  cases known : (b.wrappersOf t).has c with
  | true =>
      have mem : c ∈ b.subscribers t := h.mem_subscribers.2 known
      rw [subscribe_of_known known, if_neg fun absent => absent.2 mem]
  | false =>
      have absent : c ∉ b.subscribers t := by
        rw [h.mem_subscribers, known]
        exact Bool.false_ne_true
      rw [subscribe_of_new known, subscribers, subscribers, LawfulEmitter.listeners_on]
      by_cases same : other = t
      · rw [if_pos same, if_pos ⟨same, absent⟩, List.map_append]
        rfl
      · rw [if_neg same, if_neg fun both => same both.1]
        rfl

/-- Of a subscriber that is removed the one listener is. -/
theorem InStep.subscribers_unsubscribe (h : b.InStep) (t c other : String) :
    (b.unsubscribe t c).subscribers other =
      if other = t then (b.subscribers other).filter (· ≠ c) else b.subscribers other := by
  cases known : (b.wrappersOf t).get? c with
  | none =>
      have absent : c ∉ b.subscribers t := by
        rw [h.mem_subscribers, Entries.has, known]
        exact Bool.false_ne_true
      rw [unsubscribe_of_unknown known]
      by_cases same : other = t
      · subst same
        rw [if_pos rfl, List.filter_eq_self.2]
        intro s mem
        exact decide_eq_true fun eq => absent (eq ▸ mem)
      · rw [if_neg same]
  | some l =>
      obtain ⟨listens, named⟩ := (h.wrapper t c l).1 known
      rw [unsubscribe_of_known known, subscribers, subscribers, LawfulEmitter.listeners_off]
      by_cases same : other = t
      · subst same
        rw [if_pos rfl, if_pos rfl, List.filter_map]
        refine congrArg (List.map _) (List.filter_congr fun k mem => ?_)
        -- two listeners of one subscriber are the same wrapper
        have one : k = l ↔ k.subscriber = c := by
          constructor
          · rintro rfl
            exact named
          · intro eq
            have found := (h.wrapper other c k).2 ⟨mem, eq⟩
            exact Option.some.inj (found.symm.trans known)
        simp [one]
      · rw [if_neg same, if_neg same]

theorem InStep.subscribe (h : b.InStep) (t c : String) : (b.subscribe t c).InStep := by
  cases known : (b.wrappersOf t).has c with
  | true =>
      rw [subscribe_of_known known]
      exact h
  | false =>
      have absent : ¬ ∃ l ∈ Emitter.listeners b.emitter t, l.subscriber = c := by
        intro listens
        rw [← List.mem_map, ← subscribers, h.mem_subscribers, known] at listens
        cases listens
      constructor
      case wrapper =>
        intro topic subscriber l
        have listeners : Emitter.listeners (b.subscribe t c).emitter topic =
            if topic = t then Emitter.listeners b.emitter topic ++ [⟨b.made, c⟩]
            else Emitter.listeners b.emitter topic := by
          rw [subscribe_of_new known]
          exact LawfulEmitter.listeners_on ..
        rw [wrapper_subscribe known, listeners]
        have before := h.wrapper topic subscriber l
        by_cases here : topic = t
        · subst here
          by_cases own : subscriber = c
          · subst own
            rw [if_pos ⟨rfl, rfl⟩, if_pos rfl, Option.some.injEq, List.mem_append,
              List.mem_singleton]
            constructor
            · rintro rfl
              exact ⟨.inr rfl, rfl⟩
            · rintro ⟨listens | new, named⟩
              · exact absurd ⟨l, listens, named⟩ absent
              · exact new.symm
          · rw [if_neg fun both => own both.2, if_pos rfl, before, List.mem_append,
              List.mem_singleton]
            constructor
            · exact fun old => ⟨.inl old.1, old.2⟩
            · rintro ⟨listens | rfl, named⟩
              · exact ⟨listens, named⟩
              · exact absurd named.symm own
        · rw [if_neg fun both => here both.1, if_neg here]
          exact before
      case nodup =>
        intro topic
        rw [h.subscribers_subscribe]
        split
        · rename_i new
          obtain ⟨rfl, fresh⟩ := new
          refine List.nodup_append.2 ⟨h.nodup topic, by simp, fun a mem d single eq => fresh ?_⟩
          rw [← List.mem_singleton.1 single, ← eq]
          exact mem
        · exact h.nodup topic

theorem InStep.unsubscribe (h : b.InStep) (t c : String) : (b.unsubscribe t c).InStep := by
  cases known : (b.wrappersOf t).get? c with
  | none =>
      rw [unsubscribe_of_unknown known]
      exact h
  | some k =>
      obtain ⟨-, named⟩ := (h.wrapper t c k).1 known
      constructor
      case wrapper =>
        intro topic subscriber l
        have listeners : Emitter.listeners (b.unsubscribe t c).emitter topic =
            if topic = t then (Emitter.listeners b.emitter topic).filter (· ≠ k)
            else Emitter.listeners b.emitter topic := by
          rw [unsubscribe_of_known known]
          exact LawfulEmitter.listeners_off ..
        rw [wrapper_unsubscribe known, listeners]
        have before := h.wrapper topic subscriber l
        by_cases here : topic = t
        · subst here
          by_cases own : subscriber = c
          · subst own
            rw [if_pos ⟨rfl, rfl⟩, if_pos rfl, List.mem_filter, decide_eq_true_eq]
            constructor
            · exact nofun
            · rintro ⟨⟨listens, other⟩, eq⟩
              exact absurd (Option.some.inj ((before.2 ⟨listens, eq⟩).symm.trans known)) other
          · rw [if_neg fun both => own both.2, if_pos rfl, before, List.mem_filter,
              decide_eq_true_eq]
            constructor
            · rintro ⟨listens, eq⟩
              exact ⟨⟨listens, fun same => own (by rw [← eq, same, named])⟩, eq⟩
            · exact fun old => ⟨old.1.1, old.2⟩
        · rw [if_neg fun both => here both.1, if_neg here]
          exact before
      case nodup =>
        intro topic
        rw [h.subscribers_unsubscribe]
        split
        · exact (h.nodup topic).filter _
        · exact h.nodup topic

/-! ## Past calls -/

/-- What an action makes of the bus that it is done with. -/
def next (b : EventBus E) : Bus.Action → EventBus E
  | .subscribe t c => b.subscribe t c
  | .unsubscribe t c => b.unsubscribe t c
  | .clear => b.clear
  | .publish .. | .count _ | .raise | .tamper | .inspect => b

end Lawful

/-- The time at which a subscriber of a topic was subscribed, after actions of which the latest
comes first: the first subscription since it was last removed. The others had no effect. -/
def since (topic subscriber : String) : List Bus.Action → Option Nat
  | [] => none
  | .subscribe t c :: past =>
      if t = topic ∧ c = subscriber then (since topic subscriber past).or (some past.length)
      else since topic subscriber past
  | .unsubscribe t c :: past =>
      if t = topic ∧ c = subscriber then none else since topic subscriber past
  | .clear :: _ => none
  | .publish .. :: past | .count _ :: past | .raise :: past | .tamper :: past | .inspect :: past =>
      since topic subscriber past

section Since

variable {topic subscriber : String} {past : List Bus.Action} {i : Nat}

theorem since_lt (h : since topic subscriber past = some i) : i < past.length := by
  induction past with
  | nil => cases h
  | cons a past ih =>
      rw [List.length_cons]
      cases a with
      | subscribe t c =>
          rw [since] at h
          split at h
          · cases before : since topic subscriber past with
            | none =>
                rw [before] at h
                obtain rfl : past.length = i := by simpa using h
                exact Nat.lt_succ_self _
            | some j =>
                rw [before] at h
                obtain rfl : j = i := by simpa using h
                exact Nat.lt_succ_of_lt (ih before)
          · exact Nat.lt_succ_of_lt (ih h)
      | unsubscribe t c =>
          rw [since] at h
          split at h
          · cases h
          · exact Nat.lt_succ_of_lt (ih h)
      | clear => cases h
      | publish | count | raise | tamper | inspect => exact Nat.lt_succ_of_lt (ih h)

/-- Subscribing again does not make a subscription a later one. -/
theorem since_subscribe (h : since topic subscriber past = some i) (t c : String) :
    since topic subscriber (.subscribe t c :: past) = some i := by
  rw [since, h]
  split <;> rfl

end Since

section Records

variable [LawfulEmitter E] {past : List Bus.Action}

/-- The subscribers of a bus are those that past actions, of which the latest comes first, have left
it, in the order in which they were subscribed. -/
structure Records (b : EventBus E) (past : List Bus.Action) : Prop extends b.InStep where
  mem : ∀ topic c, c ∈ b.subscribers topic ↔ (since topic c past).isSome = true
  ordered : ∀ topic, (b.subscribers topic).Pairwise fun c c' =>
    ∃ i j, since topic c past = some i ∧ since topic c' past = some j ∧ i < j

theorem records_new : ({} : EventBus E).Records [] where
  toInStep := inStep_new
  mem topic c := by
    simp [subscribers, LawfulEmitter.listeners_fresh, since]
  ordered topic := by
    simp [subscribers, LawfulEmitter.listeners_fresh]

theorem Records.subscribe (h : b.Records past) (t c : String) :
    (b.subscribe t c).Records (.subscribe t c :: past) := by
  refine ⟨h.toInStep.subscribe t c, fun topic d => ?_, fun topic => ?_⟩
  · rw [h.subscribers_subscribe, since]
    have before := h.mem topic d
    by_cases own : t = topic ∧ c = d
    · obtain ⟨rfl, rfl⟩ := own
      by_cases there : c ∈ b.subscribers t
      · simp [there]
      · simp [there]
    · rw [if_neg own, ← before]
      split
      · rename_i new
        rw [List.mem_append, List.mem_singleton]
        exact ⟨fun mem => mem.resolve_right fun eq => own ⟨new.1.symm, eq.symm⟩, .inl⟩
      · rfl
  · have kept : (b.subscribers topic).Pairwise fun d d' =>
        ∃ i j, since topic d (.subscribe t c :: past) = some i ∧
          since topic d' (.subscribe t c :: past) = some j ∧ i < j := by
      refine (h.ordered topic).imp ?_
      rintro d d' ⟨i, j, first, second, earlier⟩
      exact ⟨i, j, since_subscribe first t c, since_subscribe second t c, earlier⟩
    rw [h.subscribers_subscribe]
    split
    · rename_i new
      obtain ⟨rfl, fresh⟩ := new
      refine List.pairwise_append.2 ⟨kept, List.pairwise_singleton _ _, fun d mem d' last => ?_⟩
      rw [List.mem_singleton.1 last]
      -- whoever is there was subscribed before now
      obtain ⟨i, there⟩ := Option.isSome_iff_exists.1 ((h.mem topic d).1 mem)
      have new : since topic c past = none := by
        rw [h.mem] at fresh
        simpa using fresh
      refine ⟨i, past.length, since_subscribe there _ _, ?_, since_lt there⟩
      rw [since, if_pos ⟨rfl, rfl⟩, new]
      rfl
    · exact kept

theorem Records.unsubscribe (h : b.Records past) (t c : String) :
    (b.unsubscribe t c).Records (.unsubscribe t c :: past) := by
  refine ⟨h.toInStep.unsubscribe t c, fun topic d => ?_, fun topic => ?_⟩
  · rw [h.subscribers_unsubscribe, since]
    have before := h.mem topic d
    by_cases here : topic = t
    · subst here
      rw [if_pos rfl, List.mem_filter, decide_eq_true_eq, before]
      by_cases own : d = c
      · simp [own]
      · have other : c ≠ d := fun eq => own eq.symm
        simp [own, other]
    · have elsewhere : ¬ (t = topic ∧ c = d) := fun both => here both.1.symm
      rw [if_neg here, if_neg elsewhere]
      exact before
  · rw [h.subscribers_unsubscribe]
    by_cases here : topic = t
    · subst here
      rw [if_pos rfl]
      refine ((h.ordered topic).filter _).imp_of_mem ?_
      rintro d d' mem mem' ⟨i, j, first, second, earlier⟩
      have other : c ≠ d := fun eq => by simp [eq] at mem
      have other' : c ≠ d' := fun eq => by simp [eq] at mem'
      exact ⟨i, j, by simpa [since, other] using first, by simpa [since, other'] using second,
        earlier⟩
    · have elsewhere : ¬ t = topic := fun eq => here eq.symm
      rw [if_neg here]
      refine (h.ordered topic).imp ?_
      rintro d d' ⟨i, j, first, second, earlier⟩
      exact ⟨i, j, by simpa [since, elsewhere] using first,
        by simpa [since, elsewhere] using second, earlier⟩

/-- Whatever is called, the bus goes on recording it. -/
theorem Records.next (h : b.Records past) (a : Bus.Action) : (b.next a).Records (a :: past) := by
  cases a with
  | subscribe t c => exact h.subscribe t c
  | unsubscribe t c => exact h.unsubscribe t c
  | clear =>
      refine ⟨inStep_clear b, fun topic c => ?_, fun topic => ?_⟩
      · show c ∈ b.clear.subscribers topic ↔ _
        simp [subscribers_clear, since]
      · show (b.clear.subscribers topic).Pairwise _
        rw [subscribers_clear]
        exact List.Pairwise.nil
  | publish | count | raise | tamper | inspect => exact ⟨h.toInStep, h.mem, h.ordered⟩

/-- What is counted are subscribers. -/
theorem count_eq (b : EventBus E) (topic : String) :
    b.count topic = (b.subscribers topic).length := by
  rw [count, LawfulEmitter.count_eq, subscribers, List.length_map]

end Records

end EventBus

end VoiceControl
