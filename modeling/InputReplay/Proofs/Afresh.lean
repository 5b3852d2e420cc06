import InputReplay.Proofs.Replaying
import InputReplay.Proofs.Serial

/-! A driver that is used for one session after another. Each session is left in its own way: it comes to its
end, is asked to stop, or ends in a fault of the player or of whoever is told of its results. The next session
over recorded commands does what it does with a new driver: all that is left of those before it is the last
action, until another takes its place. Two sessions are compared request by request. -/

namespace InputReplay

open Program

namespace Program

variable {S : Signature} {ε α σ : Type}

/-- What every request keeps is kept by a program. -/
theorem run_keeps {host : Host S ε σ} (kept : σ → Prop) (step : ∀ r s, kept s → kept (host r s).2)
    (q : Program S ε α) {s : σ} (h : kept s) : kept (q.run host s).2 := by
  induction q generalizing s with
  | finish result => exact h
  | ask r k ih => exact ih _ (step r s h)

end Program

namespace Injector

variable {ι τ σ α : Type} [DecidableEq ι] (inj : Injector τ σ)

/-- The host of a player whose lock any thread may hold. -/
def guarded (thread : ι) : Host (playing τ) Fault (Lock ι × σ)
  | .enter, (lock, s) => (.ok (lock.enter thread).1, (lock.enter thread).2, s)
  | .leave, (lock, s) => (.ok (), lock.leave, s)
  | r, (lock, s) => ((inj.host r s).1, lock, (inj.host r s).2)

/-- What a program attempts whose lock any thread may hold. -/
def guardedActs (thread : ι) : Play τ α → Lock ι × σ → List (Attempt τ)
  | Program.finish _, _ => []
  | .ask r k, s =>
    (if r.isAct then [⟨r, faultOf (inj.guarded thread r s).1⟩] else []) ++
      guardedActs thread (k (inj.guarded thread r s).1) (inj.guarded thread r s).2

theorem guarded_act {r : PlayRequest τ} (seen : r.isAct = true) (thread : ι) (lock : Lock ι) (s : σ) :
    inj.guarded thread r (lock, s) = ((inj.host r s).1, lock, (inj.host r s).2) := by
  cases r <;> first | rfl | cases seen

/-- A program that holds the lock is not disturbed by it, and gives it back. -/
theorem guarded_holding {thread : ι} (base : Lock ι) (enters : (base.enter thread).1 = true) {d : Nat}
    {q : Play τ α} (h : Holding d q) (s : σ) :
    Program.run (inj.guarded thread) q (base.taken thread (d + 1), s) =
        ((inj.run q s).1, base, (inj.run q s).2) ∧
      inj.guardedActs thread q (base.taken thread (d + 1), s) = inj.acts q s := by
  induction h generalizing s with
  | @again d k _ ih =>
    have entered : inj.guarded thread .enter (base.taken thread (d + 1), s) =
        (.ok true, base.taken thread (d + 2), s) := by
      simp only [guarded, Lock.enter_taken enters]
    have goes := ih s
    simp only [Program.run, guardedActs, entered]
    exact goes
  | @back d k _ ih =>
    have left : inj.guarded thread .leave (base.taken thread (d + 2), s) =
        (.ok (), base.taken thread (d + 1), s) := by
      simp only [guarded, Lock.leave_taken enters]
    have goes := ih s
    simp only [Program.run, guardedActs, left]
    exact goes
  | @last k result h =>
    have left : inj.guarded thread .leave (base.taken thread 1, s) = (.ok (), base, s) := by
      simp only [guarded, Lock.leave_taken enters]
      rfl
    have done : inj.run (.ask .leave k) s = inj.run (k (.ok ())) s := rfl
    have acts : inj.acts (.ask .leave k) s = inj.acts (k (.ok ())) s := rfl
    rw [done, acts, h]
    simp only [Program.run, guardedActs, left, h]
    exact ⟨rfl, rfl⟩
  | @act d r k seen _ ih =>
    have goes := ih (inj.host r s).1 (inj.host r s).2
    simp only [Program.run, guardedActs, inj.guarded_act seen]
    refine ⟨goes.1, ?_⟩
    rw [goes.2]
    rfl

/-- A player that finds the lock free plays as if there were none, and leaves it free. -/
theorem run_guarded [Duration τ] {p : Player τ} (hg : p.gestures.IsLevel) (thread : ι) (command : String)
    (s : σ) :
    Program.run (inj.guarded thread) (p.run command) (.free, s) =
        ((inj.run (p.run command) s).1, .free, (inj.run (p.run command) s).2) ∧
      inj.guardedActs thread (p.run command) (.free, s) = inj.acts (p.run command) s := by
  have cases := Scene.served_cases p (fun _ : Unit => (⟨thread, .run command⟩ : Call ι)) hg ()
  change (∃ outcome, p.run command = _) ∨ ∃ k, p.run command = _ ∧ _ at cases
  rcases cases with ⟨outcome, done⟩ | ⟨k, asks, holding, -⟩
  · rw [done]
    exact ⟨rfl, rfl⟩
  · rw [asks]
    exact inj.guarded_holding .free rfl holding s

/-- What is answered depends only on what is asked. -/
def IsBlind : Prop := ∀ r s s', (inj.host r s).1 = (inj.host r s').1

variable {inj}

theorem IsBlind.run_eq (blind : inj.IsBlind) (q : Play τ α) (s s' : σ) :
    (inj.run q s).1 = (inj.run q s').1 ∧ inj.acts q s = inj.acts q s' := by
  induction q generalizing s s' with
  | finish result => exact ⟨rfl, rfl⟩
  | ask r k ih =>
    obtain ⟨run, acts⟩ := ih (inj.host r s).1 (inj.host r s).2 (inj.host r s').2
    have answered := blind r s s'
    refine ⟨?_, ?_⟩
    · change (inj.run (k (inj.host r s).1) _).1 = (inj.run (k (inj.host r s').1) _).1
      rw [← answered]
      exact run
    · simp only [Injector.acts, ← answered, acts]

end Injector

/-- What comes of telling somebody a result: the session may be asked to stop, and a fault may be raised. -/
structure Reaction where
  stops : Bool
  fault? : Option Fault

/-- Those who are told, each time with all the results of the session so far, and at its end with its
summary. -/
structure Audience where
  hear : List Result → Reaction
  complete : Summary → Option Fault

def raising : Option Fault → Except Fault Unit
  | none => .ok ()
  | some fault => .error fault

namespace Station

open Session (Progress Turn)

variable {ι τ σ : Type} [DecidableEq ι] [Duration τ] (st : Station τ σ)

/-- A session is asked to stop, perhaps. -/
def heeding (reaction : Reaction) (s : Sitting τ σ) : Sitting τ σ :=
  { s with stopping := s.stopping || reaction.stops }

/-- The host of a session on a thread, before an audience. -/
def manned (thread : ι) (a : Audience) : Host (sessions τ) Fault (Lock ι × Sitting τ σ)
  | .play command, (lock, s) =>
    let out := Program.run (st.injector.guarded thread) (st.player.run command) (lock, s.world)
    (out.1, out.2.1, { s with
      world := out.2.2
      played := s.played ++ [⟨command, s.world⟩]
      made := s.made ++ st.injector.guardedActs thread (st.player.run command) (lock, s.world) })
  | .report result, (lock, s) =>
    let s := st.telling result s
    let reaction := a.hear (s.told.map (·.result))
    (raising reaction.fault?, lock, heeding reaction s)
  | .complete summary, (lock, s) =>
    (raising (a.complete summary), lock, { s with completed := s.completed ++ [summary] })
  | q, (lock, s) => ((st.host q s).1, lock, (st.host q s).2)

variable {st} {thread : ι} {a : Audience}

theorem manned_play (hg : st.player.gestures.IsLevel) (command : String) (s : Sitting τ σ) :
    st.manned thread a (.play command) (.free, s) =
      ((st.outcome ⟨command, s.world⟩).1, .free, st.playing ⟨command, s.world⟩ s) := by
  obtain ⟨run, acts⟩ := st.injector.run_guarded hg thread command s.world
  simp only [manned, run, acts]
  rfl

/-- The lock is free between any two requests of a session. -/
theorem free_of_run (hg : st.player.gestures.IsLevel) {α : Type} (q : Session τ α)
    {x : Lock ι × Sitting τ σ} (free : x.1 = .free) : (q.run (st.manned thread a) x).2.1 = .free := by
  refine run_keeps (fun x : Lock ι × Sitting τ σ => x.1 = .free) (fun r x free => ?_) q free
  obtain ⟨lock, s⟩ := x
  obtain rfl : lock = .free := free
  cases r with
  | play command => rw [manned_play hg]
  | _ => rfl

/-- The last action is the one that was noted last, if any was in this session. -/
theorem last_of_run {first : LastAction} {α : Type} (q : Session τ α) {x : Lock ι × Sitting τ σ}
    (last : x.2.last = x.2.noted.getLast?.getD first) :
    (q.run (st.manned thread a) x).2.2.last =
      (q.run (st.manned thread a) x).2.2.noted.getLast?.getD first := by
  let kept (x : Lock ι × Sitting τ σ) : Prop := x.2.last = x.2.noted.getLast?.getD first
  refine run_keeps kept (fun r x last => ?_) q last
  obtain ⟨lock, s⟩ := x
  cases r with
  | remember action =>
    change action = (s.noted ++ [action]).getLast?.getD first
    rw [List.getLast?_concat, Option.getD_some]
  | wait time =>
    change (st.wait time s).2.last = (st.wait time s).2.noted.getLast?.getD first
    unfold wait
    dsimp only
    split
    · exact last
    · split <;> exact last
  | _ => exact last

/-- A session is no longer running once it is over, however it ends. -/
theorem idle_of_drive (source : Progress τ → Session τ Summary) (x : Lock ι × Sitting τ σ) :
    ((Session.drive source).run (st.manned thread a) x).2.2.running = false := by
  unfold Session.drive
  rw [Program.run_bind]
  change ((((source ⟨.empty, none⟩).afterwards Session.finish) >>= fun _ => _).run (st.manned thread a)
    (x.1, x.2.started)).2.2.running = false
  have closing : (((source ⟨.empty, none⟩).afterwards Session.finish).run (st.manned thread a)
      (x.1, x.2.started)).2.2.running = false := by
    unfold Program.afterwards
    rw [Program.run_next]
    rfl
  rw [Program.run_bind]
  generalize ((source ⟨.empty, none⟩).afterwards Session.finish).run (st.manned thread a)
    (x.1, x.2.started) = out at closing ⊢
  obtain ⟨_ | summary, lock, s⟩ := out
  · exact closing
  · change ((Session.complete summary >>= fun _ => pure summary).run (st.manned thread a)
      (lock, s)).2.2.running = false
    rw [Program.run_bind]
    change ((onResult (fun _ => pure summary) (raising (a.complete summary))).run (st.manned thread a)
      (lock, { s with completed := s.completed ++ [summary] })).2.2.running = false
    cases a.complete summary <;> exact closing

/-- Two sessions that did the same, apart from when they did it. Neither is in the middle of a command. -/
structure SameDeeds (x y : Lock ι × Sitting τ σ) : Prop where
  free : x.1 = .free ∧ y.1 = .free
  made : x.2.made = y.2.made
  noted : x.2.noted.map (·.command) = y.2.noted.map (·.command)
  told : x.2.told.map (·.result) = y.2.told.map (·.result)
  completed : x.2.completed = y.2.completed

/-- Two sessions that did the same and go on in the same way. -/
structure Alike (x y : Lock ι × Sitting τ σ) : Prop extends SameDeeds x y where
  running : x.2.running = y.2.running
  stopping : x.2.stopping = y.2.stopping

/-- Two outcomes are faults that are the same, or values that are alike. -/
inductive Agree {α β : Type} (R : α → β → Prop) : Except Fault α → Except Fault β → Prop
  | ok {a b} (h : R a b) : Agree R (.ok a) (.ok b)
  | error (fault) : Agree R (.error fault) (.error fault)

theorem Agree.of_eq {α : Type} {x y : Except Fault α} (h : x = y) : Agree Eq x y := by
  subst h
  cases x with
  | ok value => exact .ok rfl
  | error fault => exact .error fault

theorem Agree.eq {α : Type} {x y : Except Fault α} (h : Agree Eq x y) : x = y := by
  cases h with
  | ok same => rw [same]
  | error fault => rfl

variable (st thread a) in
/-- Two programs that keep sessions alike, with values that are related. -/
def Twin {α β : Type} (R : α → β → Prop) (q : Session τ α) (q' : Session τ β) : Prop :=
  ∀ x y : Lock ι × Sitting τ σ, Alike x y →
    Agree R (q.run (st.manned thread a) x).1 (q'.run (st.manned thread a) y).1 ∧
      Alike (q.run (st.manned thread a) x).2 (q'.run (st.manned thread a) y).2

namespace Twin

variable {α β α' β' : Type} {R : α → β → Prop} {R' : α' → β' → Prop}

theorem pure {u : α} {v : β} (h : R u v) : st.Twin thread a R (Pure.pure u) (Pure.pure v) :=
  fun _ _ alike => ⟨.ok h, alike⟩

theorem next {q : Session τ α} {q' : Session τ β} {f : Except Fault α → Session τ α'}
    {f' : Except Fault β → Session τ β'} (first : st.Twin thread a R q q')
    (rest : ∀ u v, Agree R u v → st.Twin thread a R' (f u) (f' v)) :
    st.Twin thread a R' (q.next f) (q'.next f') := by
  intro x y alike
  obtain ⟨agree, alike⟩ := first x y alike
  rw [Program.run_next, Program.run_next]
  exact rest _ _ agree _ _ alike

theorem bind {q : Session τ α} {q' : Session τ β} {f : α → Session τ α'} {f' : β → Session τ β'}
    (first : st.Twin thread a R q q') (rest : ∀ u v, R u v → st.Twin thread a R' (f u) (f' v)) :
    st.Twin thread a R' (q >>= f) (q' >>= f') := by
  refine first.next fun u v agree => ?_
  cases agree with
  | ok h => exact rest _ _ h
  | error fault => exact fun _ _ alike => ⟨.error fault, alike⟩

theorem isStopping : st.Twin thread a Eq Session.isStopping Session.isStopping :=
  fun _ _ alike => ⟨.ok alike.stopping, alike⟩

theorem now : st.Twin thread a (fun _ _ => True) Session.now Session.now :=
  fun _ _ alike => ⟨.ok trivial, ⟨⟨alike.free, alike.made, alike.noted, alike.told, alike.completed⟩,
    alike.running, alike.stopping⟩⟩

/-- Clocks may differ, and so one session may pause where the other does not. -/
theorem pace (r : ReplaySettings τ) (last last' : Option τ) :
    st.Twin thread a Eq (r.pace last) (r.pace last') := by
  have paced : ∀ (last : Option τ) (x : Lock ι × Sitting τ σ), ∃ world,
      (r.pace last).run (st.manned thread a) x = (.ok (), x.1, { x.2 with world }) := by
    rintro (_ | start) ⟨lock, s⟩
    · exact ⟨s.world, rfl⟩
    · let remaining := Duration.since r.minInterval (Duration.since (st.now s.world).1 start)
      change ∃ world, (if Duration.isPositive remaining then Session.pause remaining else Pure.pure ()).run
        (st.manned thread a) (lock, { s with world := (st.now s.world).2 }) = _
      split
      · exact ⟨_, rfl⟩
      · exact ⟨_, rfl⟩
  intro x y alike
  obtain ⟨world, left⟩ := paced last x
  obtain ⟨world', right⟩ := paced last' y
  rw [left, right]
  exact ⟨.ok rfl, ⟨⟨alike.free, alike.made, alike.noted, alike.told, alike.completed⟩, alike.running,
    alike.stopping⟩⟩

theorem note (command : String) :
    st.Twin thread a Eq (Session.note command) (Session.note command) := by
  intro x y alike
  refine ⟨.ok rfl, ⟨⟨alike.free, alike.made, ?_, alike.told, alike.completed⟩, alike.running,
    alike.stopping⟩⟩
  change (x.2.noted ++ _).map _ = (y.2.noted ++ _).map _
  rw [List.map_append, List.map_append, alike.noted]
  rfl

/-- What is asked of the player is the same, and so is what it answers. -/
theorem play (hg : st.player.gestures.IsLevel) (blind : st.injector.IsBlind) (command : String) :
    st.Twin thread a Eq (Session.play command) (Session.play command) := by
  rintro ⟨_, s⟩ ⟨_, s'⟩ ⟨⟨⟨rfl, rfl⟩, made, noted, told, completed⟩, running, stopping⟩
  obtain ⟨same, acts⟩ := blind.run_eq (st.player.run command) s.world s'.world
  change Agree Eq (st.manned thread a (.play command) (.free, s)).1
      (st.manned thread a (.play command) (.free, s')).1 ∧
    Alike (st.manned thread a (.play command) (.free, s)).2 (st.manned thread a (.play command) (.free, s')).2
  rw [manned_play hg, manned_play hg]
  refine ⟨.of_eq same, ⟨⟨⟨rfl, rfl⟩, ?_, noted, told, completed⟩, running, stopping⟩⟩
  change s.made ++ _ = s'.made ++ _
  rw [made]
  exact congrArg _ acts

theorem report (result : Result) :
    st.Twin thread a Eq (Session.report result) (Session.report result) := by
  rintro ⟨lock, s⟩ ⟨lock', s'⟩ alike
  have told : (st.telling result s).told.map (·.result) = (st.telling result s').told.map (·.result) := by
    change (s.told ++ _).map _ = (s'.told ++ _).map _
    rw [List.map_append, List.map_append, alike.told]
    rfl
  have length : s.told.length = s'.told.length := by
    simpa using congrArg List.length alike.told
  refine ⟨.of_eq ?_, ⟨⟨alike.free, alike.made, alike.noted, told, alike.completed⟩, alike.running, ?_⟩⟩
  · change raising (a.hear ((st.telling result s).told.map _)).fault? =
      raising (a.hear ((st.telling result s').told.map _)).fault?
    rw [told]
  · change ((s.stopping || st.stopsAt (s.told.length + 1)) || (a.hear ((st.telling result s).told.map _)).stops) =
      ((s'.stopping || st.stopsAt (s'.told.length + 1)) || (a.hear ((st.telling result s').told.map _)).stops)
    rw [told, length, alike.stopping]

theorem finish : st.Twin thread a Eq Session.finish Session.finish :=
  fun _ _ alike => ⟨.ok rfl, ⟨⟨alike.free, alike.made, alike.noted, alike.told, alike.completed⟩, rfl,
    alike.stopping⟩⟩

theorem complete (summary : Summary) :
    st.Twin thread a Eq (Session.complete summary) (Session.complete summary) :=
  fun _ _ alike => ⟨.of_eq rfl, ⟨⟨alike.free, alike.made, alike.noted, alike.told,
    congrArg (· ++ [summary]) alike.completed⟩, alike.running, alike.stopping⟩⟩

end Twin

/-- Two sessions that have fetched the same command go on with the same summary, or are over with it. -/
inductive SameTurn : Turn τ → Turn τ → Prop
  | ended (summary) : SameTurn (.ended summary) (.ended summary)
  | next {p p'} (same : p.summary = p'.summary) : SameTurn (.next p) (.next p')

theorem turn_twin (hg : st.player.gestures.IsLevel) (blind : st.injector.IsBlind) (r : ReplaySettings τ)
    (paced : Bool) (command : String) {p p' : Progress τ} (same : p.summary = p'.summary) :
    st.Twin thread a SameTurn (r.turn paced command p) (r.turn paced command p') := by
  have play : st.Twin thread a SameTurn (r.playing command p.summary) (r.playing command p'.summary) := by
    refine Twin.now.bind fun start start' _ => (Twin.play hg blind command).bind ?_
    rintro result _ rfl
    refine (Twin.note command).bind fun _ _ _ => (Twin.report result).bind fun _ _ _ => .pure (.next ?_)
    rw [same]
  rw [ReplaySettings.turn_eq, ReplaySettings.turn_eq]
  refine Twin.isStopping.bind ?_
  rintro stopping _ rfl
  cases stopping with
  | true =>
    rw [if_pos rfl, if_pos rfl, same]
    exact .pure (.ended _)
  | false =>
    rw [if_neg Bool.false_ne_true, if_neg Bool.false_ne_true]
    split
    · refine (Twin.note command).bind fun _ _ _ => ?_
      rw [same]
      exact .pure (.ended _)
    · cases paced with
      | false => exact play
      | true => exact (Twin.pace r p.last p'.last).bind fun _ _ _ => play

theorem playEach_twin (hg : st.player.gestures.IsLevel) (blind : st.injector.IsBlind)
    (r : ReplaySettings τ) (paced : Bool) (commands : List String) {p p' : Progress τ}
    (same : p.summary = p'.summary) :
    st.Twin thread a Eq (r.playEach paced commands p) (r.playEach paced commands p') := by
  induction commands generalizing p p' with
  | nil => exact .pure same
  | cons command rest ih =>
    refine (turn_twin hg blind r paced command same).bind fun turn turn' related => ?_
    cases related with
    | ended summary => exact .pure rfl
    | next same => exact ih same

/-- Once a session has started, nothing is left of what was before it. -/
theorem drive_twin (hg : st.player.gestures.IsLevel) (blind : st.injector.IsBlind)
    (r : ReplaySettings τ) (paced : Bool) (commands : List String) :
    st.Twin thread a Eq
      (do
        let summary ← (r.playEach paced commands ⟨.empty, none⟩).afterwards Session.finish
        Session.complete summary
        return summary)
      (do
        let summary ← (r.playEach paced commands ⟨.empty, none⟩).afterwards Session.finish
        Session.complete summary
        return summary) := by
  have closing : st.Twin thread a Eq ((r.playEach paced commands ⟨.empty, none⟩).afterwards Session.finish)
      ((r.playEach paced commands ⟨.empty, none⟩).afterwards Session.finish) := by
    refine (playEach_twin hg blind r paced commands rfl).next fun result result' agree => ?_
    obtain rfl := agree.eq
    exact Twin.finish.bind fun _ _ _ _ _ alike => ⟨.of_eq rfl, alike⟩
  refine closing.bind ?_
  rintro summary _ rfl
  exact (Twin.complete summary).bind fun _ _ _ => .pure rfl

end Station

/-- A driver between two sessions: the lock of its player, what stands behind it, and what is kept from one
session to the next. -/
structure Driver (ι σ : Type) where
  lock : Lock ι
  world : σ
  last : LastAction
  running : Bool
  stopping : Bool

/-- What happens to a driver: a session over some source, a request to stop in between, or something
elsewhere. -/
inductive Episode (ι τ σ : Type) where
  | session (thread : ι) (a : Audience) (r : ReplaySettings τ)
      (source : Session.Progress τ → Session τ Summary) (ticks : List TickOutcome)
  | stop
  | elsewhere (change : σ → σ)

namespace Driver

variable {ι τ σ : Type}

def new (world : σ) (last : LastAction) : Driver ι σ := ⟨.free, world, last, false, false⟩

def sitting (d : Driver ι σ) (ticks : List TickOutcome) : Sitting τ σ :=
  { Sitting.before d.world d.last d.stopping ticks with running := d.running }

variable [DecidableEq ι] [Duration τ] (st : Station τ σ)

def hold (thread : ι) (a : Audience) (session : Session τ Summary) (ticks : List TickOutcome)
    (d : Driver ι σ) : Except Fault Summary × Lock ι × Sitting τ σ :=
  session.run (st.manned thread a) (d.lock, d.sitting ticks)

def after (d : Driver ι σ) : Episode ι τ σ → Driver ι σ
  | .session thread a r source ticks =>
    let left := (d.hold st thread a (r.keeping (Session.drive source)) ticks).2
    ⟨left.1, left.2.world, left.2.last, left.2.running, left.2.stopping⟩
  | .stop => { d with stopping := true }
  | .elsewhere change => { d with world := change d.world }

variable {st}

structure IsIdle (d : Driver ι σ) : Prop where
  free : d.lock = .free
  still : d.running = false

theorem IsIdle.after (hg : st.player.gestures.IsLevel) {d : Driver ι σ} (h : d.IsIdle)
    (episode : Episode ι τ σ) : (d.after st episode).IsIdle := by
  cases episode with
  | session thread a r source ticks =>
    refine ⟨Station.free_of_run hg _ h.free, ?_⟩
    change ((r.keeping (Session.drive source)).run (st.manned thread a) _).2.2.running = false
    unfold ReplaySettings.keeping
    split
    · exact Station.idle_of_drive source _
    · exact h.still
  | stop => exact ⟨h.free, h.still⟩
  | elsewhere change => exact ⟨h.free, h.still⟩

theorem idle_of_history (hg : st.player.gestures.IsLevel) (history : List (Episode ι τ σ))
    {d : Driver ι σ} (h : d.IsIdle) : (history.foldl (Driver.after st) d).IsIdle := by
  induction history generalizing d with
  | nil => exact h
  | cons episode rest ih => exact ih (h.after hg episode)

/-- Two idle drivers do the same. -/
theorem hold_eq (hg : st.player.gestures.IsLevel) (blind : st.injector.IsBlind) (thread : ι)
    (a : Audience) (r : ReplaySettings τ) (paced : Bool) (commands : List String) {d d' : Driver ι σ}
    (h : d.IsIdle) (h' : d'.IsIdle) :
    (d.hold st thread a (r.replay paced commands) []).1 = (d'.hold st thread a (r.replay paced commands) []).1 ∧
      Station.SameDeeds (d.hold st thread a (r.replay paced commands) []).2
        (d'.hold st thread a (r.replay paced commands) []).2 := by
  unfold hold ReplaySettings.replay ReplaySettings.keeping
  split
  · obtain ⟨agree, alike⟩ := Station.drive_twin hg blind r paced commands
      (d.lock, (d.sitting []).started) (d'.lock, (d'.sitting []).started)
      ⟨⟨⟨h.free, h'.free⟩, rfl, rfl, rfl, rfl⟩, rfl, rfl⟩
    exact ⟨agree.eq, alike.toSameDeeds⟩
  · exact ⟨rfl, ⟨h.free, h'.free⟩, rfl, rfl, rfl, rfl⟩

/-- A session over recorded commands, with a driver to which anything may have happened before and with a new
one. The same is attempted, the same results are told, and it comes to the same end. -/
theorem replay_afresh (st : Station τ σ) (hg : st.player.gestures.IsLevel) (blind : st.injector.IsBlind)
    (history : List (Episode ι τ σ)) (world world' : σ) (first first' : LastAction) (thread : ι)
    (a : Audience) (r : ReplaySettings τ) (paced : Bool) (commands : List String) :
    let d := history.foldl (Driver.after st) (new world first)
    let used := d.hold st thread a (r.replay paced commands) []
    let fresh := (new world' first').hold st thread a (r.replay paced commands) []
    used.1 = fresh.1 ∧
      used.2.2.made = fresh.2.2.made ∧
      used.2.2.told.map (·.result) = fresh.2.2.told.map (·.result) ∧
      used.2.2.completed = fresh.2.2.completed ∧
      used.2.2.noted.map (·.command) = fresh.2.2.noted.map (·.command) ∧
      used.2.2.last = used.2.2.noted.getLast?.getD d.last ∧
      fresh.2.2.last = fresh.2.2.noted.getLast?.getD first' ∧
      used.2.2.running = false ∧ used.2.1 = .free := by
  intro d used fresh
  have idle : d.IsIdle := idle_of_history hg history ⟨rfl, rfl⟩
  obtain ⟨same, alike⟩ := hold_eq hg blind thread a r paced commands idle
    (⟨rfl, rfl⟩ : (new world' first').IsIdle)
  exact ⟨same, alike.made, alike.told, alike.completed, alike.noted, Station.last_of_run _ rfl,
    Station.last_of_run _ rfl, (idle.after hg (.session thread a r _ [])).still, alike.free.1⟩

/-- Asks the session to stop as soon as it is told of a result, and raises a fault. -/
def hastyAudience : Audience where
  hear _ := ⟨true, some (.host "RuntimeError" "enough")⟩
  complete _ := none

def calmAudience : Audience where
  hear _ := ⟨false, none⟩
  complete _ := none

/-- A session that ends in a fault, and then a request to stop. -/
def hastyHistory : List (Episode Unit Binary64 Unit) :=
  [.session () hastyAudience .standard
    ((ReplaySettings.standard : ReplaySettings Binary64).playEach true ["type:a", "type:b"]) [], .stop]

theorem accepting_isBlind : (Injector.accepting : Injector Binary64 Unit).IsBlind := fun _ _ _ => rfl

/-- The driver has typed a letter before. Still all of what it is to type next is typed. -/
theorem replay_afresh_hastyHistory :
    let st := Station.still none (.noResponse "")
    let nobody : LastAction := ⟨"No action", .ofDay 0⟩
    let d := hastyHistory.foldl (Driver.after st) (new () nobody)
    let used := d.hold st () calmAudience (ReplaySettings.standard.replay true ["type:b", "type:a"]) []
    let fresh := (new () nobody).hold st () calmAudience
      (ReplaySettings.standard.replay true ["type:b", "type:a"]) []
    d.stopping = true ∧ d.last.command = "type:a" ∧ used.1 = fresh.1 ∧ used.2.2.made = fresh.2.2.made ∧
      used.2.2.made.length = 4 ∧ used.2.2.last.command = "type:a" ∧ used.2.2.running = false ∧
      used.2.1 = .free := by
  intro st nobody d used fresh
  obtain ⟨same, made, -, -, -, -, -, still, free⟩ := replay_afresh st chordGestures_isLevel accepting_isBlind
    hastyHistory () () nobody nobody () calmAudience .standard true ["type:b", "type:a"]
  have before : d.stopping = true ∧ d.last.command = "type:a" := by decide +kernel
  have typed : used.2.2.made.length = 4 ∧ used.2.2.last.command = "type:a" := by decide +kernel
  exact ⟨before.1, before.2, same, made, typed.1, typed.2, still, free⟩

end Driver

end InputReplay
