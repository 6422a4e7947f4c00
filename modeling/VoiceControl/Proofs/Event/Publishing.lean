import VoiceControl.Proofs.Event.Deliveries

/-!
# Publishing

Code that is called with an event may itself use the bus. What it does next may depend on all there
is to see, it may publish in turn to whoever is code of this kind, and it may raise something. What
such code makes of a bus is what turns make of it, with the same receptions and the same notices. So
what holds of every run of turns holds of the program: of a single publication, whenever it is made
and whoever receives it, and of all that is called from outside, one action after the other.

* `EventBus.Code`: code that uses a bus through what the bus offers.
* `EventBus.Mirrors`: code has made of a bus what turns have made of it.
* `EventBus.follows_deliver`, `EventBus.Code.follows`: publishing is turns of which the first is the
  publication, and whatever code does is turns.
* `EventBus.acts_follow`: so is what the outside does, each action being the turn of that name.
* `EventBus.publications_delivered`: the program delivers what is published.
-/

namespace VoiceControl

/-- What was received, if it is that what was seen. -/
def Bus.Sighting.received? : Bus.Sighting → Option (String × String × Tree)
  | .received subscriber topic data => some (subscriber, topic, data)
  | .inspected _ => none

/-- What a subscriber receives, without the publication that it comes from. -/
def Bus.Reception.told (r : Bus.Reception) : String × String × Tree :=
  (r.subscriber, r.topic, r.data)

namespace EventBus

variable {E : Type} [Emitter E] {α β : Type}

/-! ## Code -/

/-- How code ends and what it leaves. -/
def outcome (x : Using E α) (v : Usage E) : Except Unit α × Usage E := x.run v

theorem outcome_bind (x : Using E α) (f : α → Using E β) (v : Usage E) :
    outcome (x >>= f) v =
      match outcome x v with
      | (.ok a, v') => outcome (f a) v'
      | (.error e, v') => (.error e, v') := by
  simp only [outcome, bind, ExceptT.bind, ExceptT.mk, ExceptT.run, StateT.bind]
  rcases x v with ⟨r, v'⟩
  cases r <;> rfl

theorem outcome_tryCatch (x : Using E α) (rescue : Unit → Using E α) (v : Usage E) :
    outcome (tryCatch x rescue) v =
      match outcome x v with
      | (.ok a, v') => (.ok a, v')
      | (.error e, v') => outcome (rescue e) v' := by
  simp only [outcome, tryCatch, tryCatchThe, MonadExceptOf.tryCatch, ExceptT.tryCatch, ExceptT.mk,
    ExceptT.run, bind, StateT.bind]
  rcases x v with ⟨r, v'⟩
  cases r <;> rfl

/-- Code that uses a bus: it calls what the bus offers, it may look at all that there is and raise
and catch something, and those to whom it publishes are such code. -/
inductive Code : {α : Type} → Using E α → Prop
  | pure {α : Type} (a : α) : Code (pure a)
  | raise {α : Type} : Code (throw () : Using E α)
  | look : Code (get : Using E (Usage E))
  | inspect (s : String) : Code (see (.inspected s))
  | subscribe (t s : String) : Code (change (·.subscribe t s))
  | unsubscribe (t s : String) : Code (change (·.unsubscribe t s))
  | clear : Code (change (·.clear))
  | publish {callback : String → Using E Unit} (topic : String) (data : Tree)
      (each : ∀ s, Code (callback s)) : Code (deliver callback topic data)
  | bind {α β : Type} {x : Using E α} {f : α → Using E β} (first : Code x)
      (next : ∀ a, Code (f a)) : Code (x >>= f)
  | attempt {α : Type} {x : Using E α} {rescue : Unit → Using E α} (first : Code x)
      (next : ∀ e, Code (rescue e)) : Code (tryCatch x rescue)

/-- A script is code if publishing is. -/
theorem code_perform {publish : String → Tree → Using E Unit}
    (nested : ∀ topic data, Code (publish topic data)) (s : String) (script : List Bus.Action) :
    Code (perform publish s script) := by
  induction script with
  | nil => exact .pure ()
  | cons a rest ih =>
      cases a with
      | raise | tamper => exact .raise
      | inspect => exact (Code.inspect s).bind fun _ => ih
      | publish topic data => exact (nested topic data).bind fun _ => ih
      | subscribe t c => exact (Code.subscribe t c).bind fun _ => ih
      | unsubscribe t c => exact (Code.unsubscribe t c).bind fun _ => ih
      | clear => exact Code.clear.bind fun _ => ih
      | count => exact ih

/-- Publishing as the program does it delivers to code. -/
theorem exists_publish_eq (scripts : String → List Bus.Action) (depth : Nat) :
    ∃ callback : String → Using E Unit, (∀ s, Code (callback s)) ∧
      publish scripts depth = deliver callback := by
  induction depth with
  | zero => exact ⟨_, fun _ => .pure (), rfl⟩
  | succ depth ih =>
      obtain ⟨callback, each, eq⟩ := ih
      refine ⟨_, fun s => code_perform (fun topic data => ?_) s _, rfl⟩
      rw [eq]
      exact .publish topic data each

/-! ## Code and turns -/

/-- Between two states the same has become of a bus in turns and by code: both lead to one bus, and
the receptions and notices that have come up in turns are those that were observed of the code. -/
structure Mirrors (u : Live E) (v : Usage E) (u' : Live E) (v' : Usage E) : Prop where
  bus : v'.bus = u'.bus
  received : ∃ rs seen, u'.receptions = u.receptions ++ rs ∧
    v'.record.sightings = v.record.sightings ++ seen ∧
    seen.filterMap Bus.Sighting.received? = rs.map Bus.Reception.told
  noticed : ∃ ns, u'.notices = u.notices ++ ns ∧ v'.record.notices = v.record.notices ++ ns

section Mirrors

variable {u u' u'' : Live E} {v v' v'' : Usage E}

theorem mirrors_refl (same : v.bus = u.bus) : Mirrors u v u v where
  bus := same
  received := ⟨[], [], (List.append_nil _).symm, (List.append_nil _).symm, rfl⟩
  noticed := ⟨[], (List.append_nil _).symm, (List.append_nil _).symm⟩

theorem Mirrors.trans (first : Mirrors u v u' v') (next : Mirrors u' v' u'' v'') :
    Mirrors u v u'' v'' := by
  obtain ⟨rs, seen, received, sightings, same⟩ := first.received
  obtain ⟨rs', seen', received', sightings', same'⟩ := next.received
  obtain ⟨ns, notices, noted⟩ := first.noticed
  obtain ⟨ns', notices', noted'⟩ := next.noticed
  refine ⟨next.bus, ⟨rs ++ rs', seen ++ seen', ?_, ?_, ?_⟩, ⟨ns ++ ns', ?_, ?_⟩⟩
  · rw [received', received, List.append_assoc]
  · rw [sightings', sightings, List.append_assoc]
  · rw [List.filterMap_append, List.map_append, same, same']
  · rw [notices', notices, List.append_assoc]
  · rw [noted', noted, List.append_assoc]

/-- What code does can be done by turns, after which the same calls are in progress. -/
def Follows (x : Using E α) : Prop :=
  ∀ (u : Live E) (v : Usage E), v.bus = u.bus →
    ∃ ts, Mirrors u v (u.after ts) (outcome x v).2 ∧ (u.after ts).frames = u.frames

/-- A subscriber that was called ends its call, by returning or by raising something, and the
emission that called it goes on. -/
theorem ends_call {callback : Using E Unit} (follows : Follows callback) {f : Bus.Frame}
    {frames : List Bus.Frame} (same : v.bus = u.bus) (called : u.frames = .wrapper :: f :: frames) :
    ∃ v' w ts, outcome (wrapped callback) v = (.ok (), v') ∧ Mirrors u v w v' ∧
      w.frames = f :: frames ∧ u.after ts = w.resume := by
  obtain ⟨ts, mirrors, inside⟩ := follows u v same
  have called := inside.trans called
  obtain ⟨ns, notices, noted⟩ := mirrors.noticed
  rw [wrapped, outcome_tryCatch]
  rcases ran : outcome callback v with ⟨e | _, v'⟩ <;> rw [ran] at mirrors noted
  · refine ⟨_, { u.after ts with
      frames := f :: frames, notices := (u.after ts).notices ++ [.subscriberFailed] },
      ts ++ [.does .raise], rfl, ?_, rfl, ?_⟩
    · refine ⟨mirrors.bus, mirrors.received, ns ++ [.subscriberFailed], ?_, ?_⟩
      · show (u.after ts).notices ++ [_] = _
        rw [notices, List.append_assoc]
      · show v'.record.notices ++ [_] = _
        rw [noted, List.append_assoc]
    · rw [Live.after_append]
      show (u.after ts).raise (u.after ts).frames = _
      rw [called]
      rfl
  · refine ⟨v', { u.after ts with frames := f :: frames }, ts ++ [.finish], rfl, ?_, rfl, ?_⟩
    · exact ⟨mirrors.bus, mirrors.received, mirrors.noticed⟩
    · rw [Live.after_append]
      show (u.after ts).finish = _
      simp only [Live.finish, called]

/-- An emission goes on to its end, whatever those do who are called. -/
theorem delivers_each {callback : String → Using E Unit} (follows : ∀ s, Follows (callback s))
    {n : Nat} {topic : String} {data : Tree} {frames : List Bus.Frame} (waiting : List Listener)
    (same : v.bus = u.bus) (emits : u.frames = .emission n topic data waiting :: frames) :
    ∃ v' ts,
      outcome (waiting.forM fun l => wrapped do
        see (.received l.subscriber topic data)
        callback l.subscriber) v = (.ok (), v') ∧
      Mirrors u v (u.resume.after ts) v' ∧ (u.resume.after ts).frames = frames := by
  induction waiting generalizing u v with
  | nil =>
      have ended : u.resume = { u with frames } := by simp [Live.resume, emits]
      have still := mirrors_refl same
      rw [ended]
      exact ⟨v, [], rfl, ⟨still.bus, still.received, still.noticed⟩, rfl⟩
  | cons l waiting ih =>
      have calls : u.resume = { u with
          frames := .wrapper :: .emission n topic data waiting :: frames
          receptions := u.receptions ++ [⟨n, l.subscriber, topic, data⟩] } := by
        simp [Live.resume, emits]
      -- the reception is noted before the subscriber does anything
      let v₁ : Usage E := { v with record := { v.record with
        sightings := v.record.sightings ++ [.received l.subscriber topic data] } }
      have noted : outcome (wrapped do
          see (.received l.subscriber topic data)
          callback l.subscriber) v = outcome (wrapped (callback l.subscriber)) v₁ := by
        rw [wrapped, wrapped, outcome_tryCatch, outcome_tryCatch, outcome_bind]
        rfl
      have called : Mirrors u v u.resume v₁ := by
        rw [calls]
        exact ⟨same, ⟨[⟨n, l.subscriber, topic, data⟩], [.received l.subscriber topic data],
          rfl, rfl, rfl⟩, (mirrors_refl same).noticed⟩
      obtain ⟨v₂, w, ts, ended, did, emits₂, went⟩ :=
        ends_call (follows l.subscriber) called.bus (congrArg Live.frames calls)
      obtain ⟨v', ts', rest, mirrors, outside⟩ := ih did.bus emits₂
      refine ⟨v', ts ++ ts', ?_, ?_⟩
      · refine (outcome_bind _ _ v).trans ?_
        rw [noted, ended]
        exact rest
      · rw [Live.after_append, went]
        exact ⟨(called.trans did).trans mirrors, outside⟩

/-- Code that publishes goes on, and what was done are turns of which the first is the
publication. -/
theorem follows_deliver {callback : String → Using E Unit} (follows : ∀ s, Follows (callback s))
    (topic : String) (data : Tree) (same : v.bus = u.bus) :
    ∃ v' later, outcome (deliver callback topic data) v = (.ok (), v') ∧
      Mirrors u v (u.after (.does (.publish topic data) :: later)) v' ∧
      (u.after (.does (.publish topic data) :: later)).frames = u.frames := by
  have begun : outcome (deliver callback topic data) v =
      outcome ((Emitter.listeners u.bus.emitter topic).forM fun l => wrapped do
        see (.received l.subscriber topic (Bus.payload data))
        callback l.subscriber) v := by
    rw [← same]
    rfl
  obtain ⟨v', later, ended, mirrors, frames⟩ := delivers_each (v := v) (u := { u with
    frames := .emission u.publications topic (Bus.payload data)
      (Emitter.listeners u.bus.emitter topic) :: u.frames
    publications := u.publications + 1 }) follows _ same rfl
  rw [begun]
  exact ⟨v', later, ended, ⟨mirrors.bus, mirrors.received, mirrors.noticed⟩, frames⟩

end Mirrors

/-- Whatever code does is what turns do. -/
theorem Code.follows {x : Using E α} (code : Code x) : Follows x := by
  induction code with
  | pure | raise | look => exact fun _ _ same => ⟨[], mirrors_refl same, rfl⟩
  | inspect s =>
      intro u v same
      have still := mirrors_refl same
      exact ⟨[], ⟨same, ⟨[], [.inspected s], (List.append_nil _).symm, rfl, rfl⟩, still.noticed⟩,
        rfl⟩
  | subscribe t s =>
      intro u v same
      have still := mirrors_refl same
      exact ⟨[.does (.subscribe t s)],
        ⟨congrArg (·.subscribe t s) same, still.received, still.noticed⟩, rfl⟩
  | unsubscribe t s =>
      intro u v same
      have still := mirrors_refl same
      exact ⟨[.does (.unsubscribe t s)],
        ⟨congrArg (·.unsubscribe t s) same, still.received, still.noticed⟩, rfl⟩
  | clear =>
      intro u v same
      have still := mirrors_refl same
      exact ⟨[.does .clear], ⟨congrArg (·.clear) same, still.received, still.noticed⟩, rfl⟩
  | publish topic data _ each =>
      intro u v same
      obtain ⟨v', later, ran, mirrors, frames⟩ := follows_deliver each topic data same
      rw [ran]
      exact ⟨_, mirrors, frames⟩
  | bind _ _ first next =>
      intro u v same
      obtain ⟨ts, mirrors, frames⟩ := first u v same
      rw [outcome_bind]
      rcases ran : outcome _ v with ⟨e | a, v'⟩ <;> rw [ran] at mirrors
      · exact ⟨ts, mirrors, frames⟩
      · obtain ⟨ts', mirrors', frames'⟩ := next a _ v' mirrors.bus
        rw [← Live.after_append] at mirrors' frames'
        exact ⟨ts ++ ts', mirrors.trans mirrors', frames'.trans frames⟩
  | attempt _ _ first next =>
      intro u v same
      obtain ⟨ts, mirrors, frames⟩ := first u v same
      rw [outcome_tryCatch]
      rcases ran : outcome _ v with ⟨e | a, v'⟩ <;> rw [ran] at mirrors
      · obtain ⟨ts', mirrors', frames'⟩ := next e _ v' mirrors.bus
        rw [← Live.after_append] at mirrors' frames'
        exact ⟨ts ++ ts', mirrors.trans mirrors', frames'.trans frames⟩
      · exact ⟨ts, mirrors, frames⟩

/-! ## From outside -/

/-- An action from outside is the turn of that name and those that follow from it, after which the
outside is in control again. -/
theorem act_follows (scripts : String → List Bus.Action) (depth : Nat) {u : Live E}
    (outside : u.frames = []) (a : Bus.Action) :
    let o := u.bus.act scripts depth a
    ∃ later, Mirrors u { bus := u.bus } (u.after (.does a :: later)) ⟨o.bus, o.record⟩ ∧
      (u.after (.does a :: later)).frames = [] := by
  have still := mirrors_refl (u := u) (v := { bus := u.bus }) rfl
  cases a with
  | publish topic data =>
      obtain ⟨callback, each, eq⟩ := exists_publish_eq (E := E) scripts depth
      obtain ⟨v', later, ran, mirrors, frames⟩ := follows_deliver (u := u)
        (v := { bus := u.bus }) (fun s => (each s).follows) topic data rfl
      refine ⟨later, ?_, frames.trans outside⟩
      show Mirrors _ _ _ (outcome (publish scripts depth topic data) _).2
      rw [eq, ran]
      exact mirrors
  | subscribe | unsubscribe | clear => exact ⟨[], ⟨rfl, still.received, still.noticed⟩, outside⟩
  | count | inspect => exact ⟨[], still, outside⟩
  | raise | tamper =>
      -- what the outside raises is nothing to the bus
      have same : u.raise u.frames = u := by
        obtain ⟨bus, frames, n, rs, ns, escaped⟩ := u
        obtain rfl : frames = [] := outside
        rfl
      refine ⟨[], ?_, ?_⟩
      · show Mirrors u _ (u.raise u.frames) _
        rw [same]
        exact still
      · show (u.raise u.frames).frames = []
        rw [same, outside]

/-- What a bus has come to and what was observed of it after actions from outside. -/
def acts (scripts : String → List Bus.Action) (depth : Nat) (v : Usage E) :
    List Bus.Action → Usage E
  | [] => v
  | a :: as =>
      let o := v.bus.act scripts depth a
      acts scripts depth
        ⟨o.bus, v.record.sightings ++ o.record.sightings, v.record.notices ++ o.record.notices⟩ as

/-- Turns do what actions from outside do: between them the outside is in control, and each action
is a turn in its place. -/
structure Plays (scripts : String → List Bus.Action) (depth : Nat) (u : Live E) (v : Usage E)
    (as : List Bus.Action) (ts : List Bus.Turn) : Prop where
  mirrors : Mirrors u v (u.after ts) (acts scripts depth v as)
  outside : (u.after ts).frames = []
  placed : ∀ before a rest, as = before ++ a :: rest → ∃ earlier later,
    ts = earlier ++ .does a :: later ∧ (u.after earlier).frames = [] ∧
      Mirrors u v (u.after earlier) (acts scripts depth v before)

/-- Whatever the outside does and whatever the scripts are, turns do the same. -/
theorem acts_follow (scripts : String → List Bus.Action) (depth : Nat) {u : Live E} {v : Usage E}
    (outside : u.frames = []) (same : v.bus = u.bus) (as : List Bus.Action) :
    ∃ ts, Plays scripts depth u v as ts := by
  induction as generalizing u v with
  | nil =>
      refine ⟨[], mirrors_refl same, outside, fun before a rest none => ?_⟩
      exact absurd none.symm (List.append_ne_nil_of_right_ne_nil _ (List.cons_ne_nil a rest))
  | cons a as ih =>
      obtain ⟨now, mirrors, frames⟩ := act_follows scripts depth outside a
      rw [← same] at mirrors
      -- the record of an action begins anew, and all is recorded one after the other
      have joined : Mirrors u v (u.after (.does a :: now))
          ⟨(v.bus.act scripts depth a).bus,
            v.record.sightings ++ (v.bus.act scripts depth a).record.sightings,
            v.record.notices ++ (v.bus.act scripts depth a).record.notices⟩ := by
        obtain ⟨rs, seen, received, sightings, told⟩ := mirrors.received
        obtain ⟨ns, notices, noted⟩ := mirrors.noticed
        obtain rfl : _ = seen := sightings
        obtain rfl : _ = ns := noted
        exact ⟨mirrors.bus, ⟨rs, _, received, rfl, told⟩, _, notices, rfl⟩
      obtain ⟨ts, plays⟩ := ih frames joined.bus
      have after (ts : List Bus.Turn) :
          u.after (.does a :: now ++ ts) = (u.after (.does a :: now)).after ts :=
        Live.after_append u _ ts
      refine ⟨.does a :: now ++ ts, ?_, ?_, fun before b rest eq => ?_⟩
      · rw [after]
        exact joined.trans plays.mirrors
      · rw [after]
        exact plays.outside
      · cases before with
        | nil =>
            obtain ⟨rfl, -⟩ := List.cons.inj eq
            exact ⟨[], now ++ ts, rfl, outside, mirrors_refl same⟩
        | cons a' before =>
            obtain ⟨rfl, same⟩ := List.cons.inj eq
            obtain ⟨earlier, later, rfl, free, came⟩ := plays.placed before b rest same
            refine ⟨.does a :: now ++ earlier, later, (List.append_assoc ..).symm, ?_, ?_⟩
            · rw [after]
              exact free
            · rw [after]
              exact joined.trans came

end EventBus

/-- Every moment of every run is orderly, and whatever code publishes then, to whoever is code,
raises nothing and is what turns do of which the first is the publication: it is received by those
who are subscribed to its topic at this moment, by each of them once and in the order in which they
were subscribed, and so is all that they publish in turn. The program with its scripts goes such a
run, with each action from outside as a turn in its place, and all that is published in it is
received in this way. -/
theorem EventBus.publications_delivered (E : Type) [Emitter E] [LawfulEmitter E] :
    (∀ ts : List Bus.Turn,
      let u := ({} : Live E).after ts
      u.Orderly ts ∧
      ∀ callback : String → Using E Unit, (∀ s, Code (callback s)) → ∀ topic data record,
        ∃ v later,
          let w := u.after (.does (.publish topic data) :: later)
          outcome (deliver callback topic data) ⟨u.bus, record⟩ = (.ok (), v) ∧
          Mirrors u ⟨u.bus, record⟩ w v ∧ w.frames = u.frames ∧
          u.Delivers (.does (.publish topic data) :: later)) ∧
    ∀ (scripts : String → List Bus.Action) (depth : Nat) (as : List Bus.Action),
      ∃ ts, Plays scripts depth ({} : Live E) { bus := {} } as ts ∧
        ({} : Live E).Delivers ts := by
  refine ⟨fun ts => ⟨Live.orderly_after ts, fun callback each topic data record => ?_⟩,
    fun scripts depth as => ?_⟩
  · have sound := (Live.sound_new (E := E).goes_after ts).sound
    obtain ⟨v, later, ran, mirrors, frames⟩ := follows_deliver
      (v := ⟨(({} : Live E).after ts).bus, record⟩) (fun s => (each s).follows) topic data rfl
    exact ⟨v, later, ran, mirrors, frames, sound.delivers frames⟩
  · obtain ⟨ts, plays⟩ := acts_follow scripts depth (u := ({} : Live E)) (v := { bus := {} })
      rfl rfl as
    exact ⟨ts, plays, Live.sound_new.delivers plays.outside⟩

/-- The first of two subscribers puts another one in the place of the second, publishes in turn and
raises something. Still the second is called, and the new one is only called for the publication
that was made after it had come. -/
theorem EventBus.publications_delivered_to_second :
    let scripts (s : String) : List Bus.Action :=
      if s = "a" then
        [.unsubscribe "error" "b", .subscribe "error" "c", .publish "error" .null, .raise]
      else []
    let as : List Bus.Action :=
      [.subscribe "error" "a", .subscribe "error" "b", .publish "error" .null]
    let v := acts scripts 1 ({ bus := {} } : Usage Listeners) as
    (v.record.sightings.filterMap Bus.Sighting.received?).map (·.1) = ["a", "a", "c", "b"] ∧
      v.record.notices.length = 1 ∧ v.bus.count "error" = 2 ∧
      ∃ ts n, Plays scripts 1 ({} : Live Listeners) { bus := {} } as ts ∧
        ((({} : Live Listeners).after ts).received n).map (·.subscriber) = ["a", "b"] := by
  intro scripts as v
  obtain ⟨ts, plays, delivers⟩ := (publications_delivered Listeners).2 scripts 1 as
  refine ⟨by decide +kernel, by decide +kernel, by decide +kernel, ts, ?_⟩
  obtain ⟨earlier, later, eq, -, came⟩ :=
    plays.placed [.subscribe "error" "a", .subscribe "error" "b"] (.publish "error" .null) [] rfl
  have roster : (({} : Live Listeners).after earlier).bus.subscribers "error" = ["a", "b"] := by
    rw [← came.bus]
    decide +kernel
  refine ⟨(({} : Live Listeners).after earlier).publications, plays, ?_⟩
  rw [delivers earlier "error" .null later eq, Live.owed, roster]
  rfl

end VoiceControl
