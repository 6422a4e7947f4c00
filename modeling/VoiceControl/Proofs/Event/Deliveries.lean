import VoiceControl.Proofs.Event.Subscriptions

/-!
# Deliveries

While an event is delivered, the subscriber that was called is in control. It may do with the bus
what it likes and publish in turn, until it returns or raises something; then the one after it is
called, and at last whoever published goes on. So a run is a list of turns, each taken by whoever is
in control then.

What is raised goes outwards through the calls in progress. It is caught where a wrapper called a
subscriber; where it would come out of an emission, the rest of that emission would not take place
and its publisher would be the next one to get it.

* `Live.turn`: what a turn does, on the bus as the program has it.
* `Live.Sound`: between a subscriber and its emission there is always a wrapper.
* `Live.account`: what was received of a publication and what is still due. Nothing changes it once
  the publication has begun.
* `Live.Orderly`: what holds at every moment of a run; `Live.orderly_after` is the run lemma.
* `Live.Delivers`: what holds of turns after which as many calls are in progress as before.
-/

namespace VoiceControl

namespace Bus

/-- A call in progress: an emission that has listeners waiting, or a wrapper whose subscriber has
not returned. -/
inductive Frame where
  | emission (publication : Nat) (topic : String) (data : Tree) (waiting : List Listener)
  | wrapper

/-- That a subscriber was called with an event. -/
structure Reception where
  publication : Nat
  subscriber : String
  topic : String
  data : Tree

/-- What whoever is in control does next. -/
inductive Turn where
  | does (a : Action)
  | finish

def Turn.action? : Turn → Option Action
  | does a => some a
  | finish => none

/-- The actions that turns consist of, the latest first. -/
def past (ts : List Turn) : List Action := (ts.filterMap Turn.action?).reverse

end Bus

/-- A bus in use. The calls in progress are listed with the innermost first; if there are none, it
is the outside that is in control. -/
structure Live (E : Type) [Emitter E] where
  bus : EventBus E := {}
  frames : List Bus.Frame := []
  publications : Nat := 0
  receptions : List Bus.Reception := []
  notices : List Notice := []
  /-- The publications whose publisher got something that a subscriber had raised. -/
  escaped : List Nat := []

namespace Live

variable {E : Type} [Emitter E]

/-- Goes on with the emission that is innermost: it calls the next listener or is over. -/
def resume (u : Live E) : Live E :=
  match u.frames with
  | .emission n topic data (l :: waiting) :: frames =>
      { u with
        frames := .wrapper :: .emission n topic data waiting :: frames
        receptions := u.receptions ++ [⟨n, l.subscriber, topic, data⟩] }
  | .emission _ _ _ [] :: frames => { u with frames }
  | _ => u

/-- Something was raised inside of these calls. -/
def raise (u : Live E) : List Bus.Frame → Live E
  | [] => { u with frames := [] }
  | .wrapper :: frames =>
      resume { u with frames, notices := u.notices ++ [.subscriberFailed] }
  | .emission n _ _ _ :: frames => raise { u with escaped := u.escaped ++ [n] } frames

/-- The subscriber that is in control returns. -/
def finish (u : Live E) : Live E :=
  match u.frames with
  | .wrapper :: frames => resume { u with frames }
  | _ => u

/-- An emission begins. -/
def publish (u : Live E) (topic : String) (data : Tree) : Live E :=
  resume { u with
    frames := .emission u.publications topic (Bus.payload data)
      (Emitter.listeners u.bus.emitter topic) :: u.frames
    publications := u.publications + 1 }

/-- A turn of whoever is in control. -/
def turn (u : Live E) : Bus.Turn → Live E
  | .finish => u.finish
  | .does (.publish topic data) => u.publish topic data
  | .does .raise | .does .tamper => u.raise u.frames
  | .does a => { u with bus := u.bus.next a }

def after (u : Live E) (ts : List Bus.Turn) : Live E := ts.foldl turn u

theorem after_append (u : Live E) (ts ts' : List Bus.Turn) :
    u.after (ts ++ ts') = (u.after ts).after ts' := List.foldl_append

variable {u : Live E}

/-! ## The bus -/

theorem bus_resume (u : Live E) : u.resume.bus = u.bus := by
  unfold resume
  split <;> rfl

theorem bus_raise (u : Live E) (frames : List Bus.Frame) : (u.raise frames).bus = u.bus := by
  induction frames generalizing u with
  | nil => rfl
  | cons f frames ih =>
      cases f with
      | wrapper => exact bus_resume _
      | emission => exact ih _

theorem bus_turn (u : Live E) (t : Bus.Turn) :
    (u.turn t).bus = t.action?.elim u.bus u.bus.next := by
  cases t with
  | finish =>
      show u.finish.bus = u.bus
      unfold finish
      split
      · exact bus_resume _
      · rfl
  | does a =>
      cases a with
      | publish => exact bus_resume _
      | raise | tamper => exact bus_raise u _
      | subscribe | unsubscribe | count | clear | inspect => rfl

/-- Whoever is in control, what the bus records is what was called. -/
theorem records_after [LawfulEmitter E] {before : List Bus.Action} (h : u.bus.Records before)
    (ts : List Bus.Turn) : (u.after ts).bus.Records (Bus.past ts ++ before) := by
  induction ts generalizing u before with
  | nil => exact h
  | cons t ts ih =>
      have turned : (u.turn t).bus.Records (t.action?.toList ++ before) := by
        rw [bus_turn]
        cases t with
        | finish => exact h
        | does a => exact h.next a
      have split : Bus.past (t :: ts) = Bus.past ts ++ t.action?.toList := by
        cases t <;> simp [Bus.past, Bus.Turn.action?, List.filterMap_cons]
      rw [split, List.append_assoc]
      exact ih turned

/-! ## Accounts -/

end Live

/-- What an emission still owes of a publication. -/
def Bus.Frame.due (n : Nat) : Bus.Frame → List Bus.Reception
  | .emission m topic data waiting =>
      if m = n then waiting.map fun l => ⟨n, l.subscriber, topic, data⟩ else []
  | .wrapper => []

namespace Live

variable {E : Type} [Emitter E] {u : Live E} {n : Nat}

def due (u : Live E) (n : Nat) : List Bus.Reception := u.frames.flatMap (Bus.Frame.due n)

/-- What was received of a publication, in this order. -/
def received (u : Live E) (n : Nat) : List Bus.Reception :=
  u.receptions.filter fun r => r.publication = n

/-- What was received of a publication and then what is still due. -/
def account (u : Live E) (n : Nat) : List Bus.Reception := u.received n ++ u.due n

/-- The emission of a publication is in progress. -/
def Underway (u : Live E) (n : Nat) : Prop :=
  ∃ topic data waiting, Bus.Frame.emission n topic data waiting ∈ u.frames

theorem due_of_not_underway (ended : ¬ u.Underway n) : u.due n = [] := by
  refine List.flatMap_eq_nil_iff.2 fun f mem => ?_
  cases f with
  | wrapper => rfl
  | emission m topic data waiting =>
      refine if_neg ?_
      rintro rfl
      exact ended ⟨topic, data, waiting, mem⟩

/-- What is due first is received. -/
theorem account_resume (u : Live E) (n : Nat) : u.resume.account n = u.account n := by
  unfold resume
  split
  · rename_i m topic data l waiting frames eq
    by_cases own : m = n
    · subst own
      simp [account, received, due, eq, Bus.Frame.due]
    · simp [account, received, due, eq, Bus.Frame.due, own]
  · rename_i m topic data frames eq
    simp [account, received, due, eq, Bus.Frame.due]
  · rfl

/-- Between a subscriber and the emission that it is called by there is a wrapper. -/
inductive Guarded : List Bus.Frame → Prop
  | outside : Guarded []
  | call (n : Nat) (topic : String) (data : Tree) (waiting : List Listener)
      {frames : List Bus.Frame} (publisher : Guarded frames) :
      Guarded (.wrapper :: .emission n topic data waiting :: frames)

/-- A state of a bus in use that can come about. -/
structure Sound (u : Live E) : Prop where
  guarded : Guarded u.frames
  begun : ∀ n, u.Underway n → n < u.publications
  /-- Nothing is known yet of publications to come. -/
  ahead : ∀ n, u.publications ≤ n → u.account n = []
  contained : u.escaped = []

theorem not_underway_outside {n : Nat} (outside : u.frames = []) : ¬ u.Underway n := by
  rintro ⟨topic, data, waiting, mem⟩
  rw [outside] at mem
  cases mem

theorem sound_new : ({} : Live E).Sound :=
  ⟨.outside, fun _ underway => absurd underway (not_underway_outside rfl), fun _ _ => rfl, rfl⟩

/-- An emission that goes on is not another one. -/
theorem underway_of_resume (underway : u.resume.Underway n) : u.Underway n := by
  obtain ⟨topic, data, waiting, mem⟩ := underway
  unfold resume at mem
  split at mem
  · rename_i m topic' data' l rest frames eq
    rcases List.mem_cons.1 mem with wrapper | mem
    · cases wrapper
    · rcases List.mem_cons.1 mem with same | outer
      · cases same
        exact ⟨topic, data, l :: waiting, eq ▸ List.mem_cons_self⟩
      · exact ⟨topic, data, waiting, eq ▸ List.mem_cons_of_mem _ outer⟩
  · rename_i eq
    exact ⟨topic, data, waiting, eq ▸ List.mem_cons_of_mem _ mem⟩
  · exact ⟨topic, data, waiting, mem⟩

theorem publications_resume (u : Live E) : u.resume.publications = u.publications := by
  unfold resume
  split <;> rfl

/-- An emission goes on between sound states. -/
theorem sound_resume {m : Nat} {topic : String} {data : Tree} {waiting : List Listener}
    {frames : List Bus.Frame} (eq : u.frames = .emission m topic data waiting :: frames)
    (guarded : Guarded frames) (begun : ∀ n, u.Underway n → n < u.publications)
    (ahead : ∀ n, u.publications ≤ n → u.account n = []) (contained : u.escaped = []) :
    u.resume.Sound := by
  have publications : u.resume.publications = u.publications := u.publications_resume
  refine ⟨?_, fun n underway => ?_, fun n later => ?_, ?_⟩
  · cases waiting with
    | nil => simpa [resume, eq] using guarded
    | cons l waiting => simpa [resume, eq] using Guarded.call m topic data waiting guarded
  · rw [publications]
    exact begun n (underway_of_resume underway)
  · rw [account_resume]
    exact ahead n (publications ▸ later)
  · unfold resume
    split <;> exact contained

/-- What a publication that begins now is owed: by each present subscriber of its topic it is to be
received once, in the order in which they are called. -/
def owed (u : Live E) (topic : String) (data : Tree) : List Bus.Reception :=
  (u.bus.subscribers topic).map fun c => ⟨u.publications, c, topic, Bus.payload data⟩

theorem account_publish (sound : u.Sound) (topic : String) (data : Tree) (n : Nat) :
    (u.publish topic data).account n =
      if n = u.publications then u.owed topic data else u.account n := by
  rw [publish, account_resume]
  by_cases new : n = u.publications
  · subst new
    have nothing := List.append_eq_nil_iff.1 (sound.ahead _ (Nat.le_refl _))
    rw [if_pos rfl, account]
    show u.received _ ++ List.flatMap _ (_ :: u.frames) = _
    rw [nothing.1, List.flatMap_cons, Bus.Frame.due, if_pos rfl]
    show _ ++ (_ ++ u.due _) = _
    rw [nothing.2, owed, EventBus.subscribers, List.map_map]
    simp
  · have other : ¬ u.publications = n := fun eq => new eq.symm
    rw [if_neg new]
    simp [account, received, due, Bus.Frame.due, other]

/-- A sound state, and no account of a publication that had begun has changed. -/
structure Goes (u v : Live E) : Prop where
  sound : v.Sound
  publications : u.publications ≤ v.publications
  account : ∀ n < u.publications, v.account n = u.account n

theorem Sound.goes_refl (sound : u.Sound) : u.Goes u := ⟨sound, Nat.le_refl _, fun _ _ => rfl⟩

/-- A subscriber that returns or raises something ends its own call. -/
theorem Sound.goes_ended (sound : u.Sound) {frames : List Bus.Frame}
    (eq : u.frames = .wrapper :: frames) (notices : List Notice) :
    u.Goes { u with frames, notices }.resume := by
  have kept (n : Nat) : { u with frames, notices }.account n = u.account n := by
    simp [account, received, due, eq, Bus.Frame.due]
  have guarded := sound.guarded
  rw [eq] at guarded
  cases guarded with
  | call m topic data waiting publisher =>
      refine ⟨sound_resume rfl publisher (fun n underway => ?_) (fun n later => ?_)
        sound.contained, ?_, fun n _ => ?_⟩
      · obtain ⟨topic', data', waiting', mem⟩ := underway
        exact sound.begun n ⟨topic', data', waiting', eq ▸ List.mem_cons_of_mem _ mem⟩
      · rw [kept]
        exact sound.ahead n later
      · simp [publications_resume]
      · rw [account_resume, kept]

theorem Sound.goes_publish (sound : u.Sound) (topic : String) (data : Tree) :
    u.Goes (u.publish topic data) := by
  refine ⟨sound_resume rfl sound.guarded (fun n underway => ?_) (fun n later => ?_)
    sound.contained, ?_, fun n old => ?_⟩
  · obtain ⟨topic', data', waiting, mem⟩ := underway
    rcases List.mem_cons.1 mem with new | outer
    · cases new
      exact Nat.lt_succ_self _
    · exact Nat.lt_succ_of_lt (sound.begun n ⟨topic', data', waiting, outer⟩)
  · have later : u.publications + 1 ≤ n := later
    rw [← account_resume]
    refine (account_publish sound topic data n).trans ?_
    rw [if_neg (by omega)]
    exact sound.ahead n (by omega)
  · rw [publish, publications_resume]
    exact Nat.le_succ _
  · rw [account_publish sound, if_neg (by omega)]

/-- Whoever is in control, a turn leads from sound states to sound ones. -/
theorem Sound.goes (sound : u.Sound) (t : Bus.Turn) : u.Goes (u.turn t) := by
  have raised : u.Goes (u.raise u.frames) := by
    rcases eq : u.frames with _ | ⟨f, frames⟩
    · -- what the outside raises is nothing to the bus
      show u.Goes { u with frames := [] }
      rw [← eq]
      exact sound.goes_refl
    · have guarded := sound.guarded
      rw [eq] at guarded
      cases guarded with
      | call => exact sound.goes_ended eq _
  cases t with
  | finish =>
      show u.Goes u.finish
      unfold finish
      split
      · rename_i frames eq
        exact sound.goes_ended eq u.notices
      · exact sound.goes_refl
  | does a =>
      cases a with
      | publish topic data => exact sound.goes_publish topic data
      | raise | tamper => exact raised
      | subscribe | unsubscribe | count | clear | inspect =>
          exact ⟨⟨sound.guarded, sound.begun, sound.ahead, sound.contained⟩, Nat.le_refl _,
            fun _ _ => rfl⟩

theorem Sound.goes_after (sound : u.Sound) (ts : List Bus.Turn) : u.Goes (u.after ts) := by
  induction ts generalizing u with
  | nil => exact sound.goes_refl
  | cons t ts ih =>
      have now := sound.goes t
      have later := ih now.sound
      refine ⟨later.sound, Nat.le_trans now.publications later.publications, fun n old => ?_⟩
      exact (later.account n (Nat.lt_of_lt_of_le old now.publications)).trans (now.account n old)

/-- Once a publication has begun, those who were subscribed when it began are accounted for. -/
theorem Sound.account_after (sound : u.Sound) {ts before later : List Bus.Turn} {topic : String}
    {data : Tree} (begins : ts = before ++ .does (.publish topic data) :: later) :
    (u.after ts).account (u.after before).publications = (u.after before).owed topic data := by
  have sound := (sound.goes_after before).sound
  have begun := sound.goes_publish topic data
  have young : (u.after before).publications <
      ((u.after before).publish topic data).publications := by
    rw [publish, publications_resume]
    exact Nat.lt_succ_self _
  have run : u.after ts = ((u.after before).publish topic data).after later := by
    rw [begins]
    exact after_append _ _ _
  rw [run, (begun.sound.goes_after later).account _ young, account_publish sound, if_pos rfl]

/-! ## Runs -/

/-- Whoever publishes in these turns: each publication was received by those who were subscribed to
its topic when it began, by each of them once, in the order in which they were called, and by nobody
else. -/
def Delivers (u : Live E) (ts : List Bus.Turn) : Prop :=
  ∀ before topic data later, ts = before ++ .does (.publish topic data) :: later →
    (u.after ts).received (u.after before).publications = (u.after before).owed topic data

/-- When the calls are in progress that were before, all that was published since is over. -/
theorem Sound.delivers (sound : u.Sound) {ts : List Bus.Turn}
    (frames : (u.after ts).frames = u.frames) : u.Delivers ts := by
  intro before topic data later begins
  have ended : ¬ (u.after ts).Underway (u.after before).publications := by
    rintro ⟨topic', data', waiting, mem⟩
    rw [frames] at mem
    have old := sound.begun _ ⟨topic', data', waiting, mem⟩
    exact absurd (sound.goes_after before).publications (Nat.not_le_of_lt old)
  rw [← sound.account_after begins, account, due_of_not_underway ended, List.append_nil]

/-- What holds of a bus in use at every moment; the turns are those that led there. No publisher has
got what a subscriber raised. The subscribers of a topic are those whom the calls have left, in the
order in which they were subscribed, none of them twice, and as many as are counted. Every
publication has been received by those, and in the order in which, they were subscribed when it
began, and once it is over by all of them. -/
structure Orderly (u : Live E) (ts : List Bus.Turn) : Prop where
  contained : u.escaped = []
  nodup : ∀ topic, (u.bus.subscribers topic).Nodup
  mem : ∀ topic c, c ∈ u.bus.subscribers topic ↔
    (EventBus.since topic c (Bus.past ts)).isSome = true
  ordered : ∀ topic, (u.bus.subscribers topic).Pairwise fun c c' =>
    ∃ i j, EventBus.since topic c (Bus.past ts) = some i ∧
      EventBus.since topic c' (Bus.past ts) = some j ∧ i < j
  count : ∀ topic, u.bus.count topic = (u.bus.subscribers topic).length
  delivering : ∀ before topic data later, ts = before ++ .does (.publish topic data) :: later →
    let began := ({} : Live E).after before
    u.received began.publications <+: began.owed topic data ∧
      (¬ u.Underway began.publications → u.received began.publications = began.owed topic data)

/-- Whatever is called and raised and by whom, a run is orderly. -/
theorem orderly_after [LawfulEmitter E] (ts : List Bus.Turn) :
    (({} : Live E).after ts).Orderly ts := by
  have sound := (sound_new (E := E)).goes_after ts
  have records : (({} : Live E).after ts).bus.Records (Bus.past ts ++ []) :=
    records_after EventBus.records_new ts
  rw [List.append_nil] at records
  refine ⟨sound.sound.contained, records.nodup, records.mem, records.ordered,
    EventBus.count_eq _, fun before topic data later begins => ?_⟩
  have account := sound_new.account_after (E := E) begins
  refine ⟨⟨_, account⟩, fun ended => ?_⟩
  rw [← account, Live.account, due_of_not_underway ended, List.append_nil]

end Live

end VoiceControl
