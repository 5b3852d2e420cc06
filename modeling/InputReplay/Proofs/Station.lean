import InputReplay.Proofs.Batch
import InputReplay.Session.Live
import Mathlib.Data.List.Forall2

/-! Sessions in front of a player. A station is all that a session depends on: the player and what takes
its events, the clock and the calendar, whoever is told of the results, and the backend. What a session
has done so far is kept in a sitting. Here is what a single command does to it. -/

namespace InputReplay

open Program

namespace Summary

/-- A window that is kept from one element to the next is the window of them all. -/
theorem lastOf_concat {α : Type} (keep : Nat) (items : List α) (x : α) :
    lastOf keep (lastOf keep items ++ [x]) = lastOf keep (items ++ [x]) := by
  unfold lastOf
  by_cases few : items.length ≤ keep
  · rw [Nat.sub_eq_zero_of_le few, List.drop_zero]
  · have kept : items.drop (items.length - keep) ++ [x] = (items ++ [x]).drop (items.length - keep) :=
      (List.drop_append_of_le_length (Nat.sub_le _ _)).symm
    rw [kept, List.drop_drop]
    congr 1
    simp only [List.length_drop, List.length_append, List.length_singleton]
    omega

end Summary

namespace Player

variable {τ σ : Type} [Duration τ] (p : Player τ)

/-- A result is named by the command that was run. -/
theorem command_of_run {inj : Injector τ σ} {command : String} {s : σ} {r : Result}
    (h : (inj.run (p.run command) s).1 = .ok r) : r.command = command := by
  rcases p.run_ok_cases (Prod.ext h rfl) with ⟨-, single⟩ | ⟨commands, results, -, rfl, -⟩
  · exact single.leaf.2
  · rfl

end Player

/-- What comes of a tick: the picture of the screen, if it can be taken, and the reply to its upload. -/
structure TickOutcome where
  picture? : Option (List UInt8)
  reply : HttpReply

/-- A command that is played, and where its run finds what takes the events. -/
structure Playing (σ : Type) where
  command : String
  world : σ

/-- What is told of a result: with it, the last action and whether the session runs. -/
structure Telling where
  result : Result
  last : LastAction
  running : Bool

structure Station (τ σ : Type) where
  player : Player τ
  injector : Injector τ σ
  now : σ → τ × σ
  today : σ → Moment × σ
  sleep : τ → σ → σ
  /-- What is done by the one who is told of a result, apart from asking the session to stop. -/
  hear : Result → σ → σ
  /-- The number of the result after which the session is asked to stop. -/
  stopAfter : Option Count
  info : HostInfo
  /-- What the backend answers when a session is started. -/
  opening : HttpReply

/-- A session at a station, with all that it did. The lists begin with what was first. -/
structure Sitting (τ σ : Type) where
  world : σ
  last : LastAction
  running : Bool
  stopping : Bool
  /-- The ticks that are still to come. -/
  ticks : List TickOutcome
  tick? : Option TickOutcome
  session? : Option String
  played : List (Playing σ)
  made : List (Attempt τ)
  noted : List LastAction
  told : List Telling
  sent : List HttpRequest
  completed : List Summary

namespace Sitting

variable {τ σ : Type}

/-- Before a session, with the last action of what was before it. An old request to stop may be there. -/
def before (world : σ) (last : LastAction) (stopping : Bool) (ticks : List TickOutcome) : Sitting τ σ where
  world
  last
  running := false
  stopping
  ticks
  tick? := none
  session? := none
  played := []
  made := []
  noted := []
  told := []
  sent := []
  completed := []

def commands (s : Sitting τ σ) : List String := s.played.map (·.command)

@[simp] theorem length_commands (s : Sitting τ σ) : s.commands.length = s.played.length :=
  List.length_map _

/-- A session has started: it runs, and the flag is down. These two come at once here. -/
def started (s : Sitting τ σ) : Sitting τ σ := { s with running := true, stopping := false }

/-- Remembers an action, which takes a look at the calendar. -/
def noting (s : Sitting τ σ) (action : LastAction) (world : σ) : Sitting τ σ :=
  { s with last := action, noted := s.noted ++ [action], world }

@[simp] theorem commands_noting (s : Sitting τ σ) (action : LastAction) (world : σ) :
    (s.noting action world).commands = s.commands := rfl

/-- A session is over, however it ended. If it came to a summary, that is told. -/
def closing : Except Fault Summary × Sitting τ σ → Except Fault Summary × Sitting τ σ
  | (.ok summary, s) => (.ok summary, { s with running := false, completed := s.completed ++ [summary] })
  | (.error fault, s) => (.error fault, { s with running := false })

theorem played_closing (out : Except Fault Summary × Sitting τ σ) :
    (closing out).2.played = out.2.played := by
  rcases out with ⟨_ | _, _⟩ <;> rfl

end Sitting

namespace ReplaySettings

variable {τ : Type} [Duration τ] (r : ReplaySettings τ)

/-- What is done with a command that is neither kept back nor the end. -/
def playing (command : String) (summary : Summary) : Session τ (Session.Turn τ) := do
  let start ← Session.now
  let result ← Session.play command
  Session.note command
  Session.report result
  return .next ⟨summary.add r.keepResults result, some start⟩

theorem turn_eq (paced : Bool) (command : String) (p : Session.Progress τ) :
    r.turn paced command p = Session.isStopping >>= fun stopping =>
      if stopping then return .ended { p.summary with stopped := true }
      else if r.isEnd command then Session.note command >>= fun _ =>
        return .ended { p.summary with ended := true }
      else if paced then r.pace p.last >>= fun _ => r.playing command p.summary
      else r.playing command p.summary := rfl

end ReplaySettings

namespace Station

open Session (Progress Turn)

variable {τ σ : Type} (st : Station τ σ)

/-- Whether the session is asked to stop after so many results. -/
def stopsAt (told : Nat) : Bool := st.stopAfter.any fun m => m.val == told

def telling (result : Result) (s : Sitting τ σ) : Sitting τ σ :=
  { s with
    told := s.told ++ [⟨result, s.last, s.running⟩]
    stopping := s.stopping || st.stopsAt (s.told.length + 1)
    world := st.hear result s.world }

/-- Waits for a tick, unless the session is asked to stop. Once the ticks are used up it is. -/
def wait (time : τ) (s : Sitting τ σ) : Bool × Sitting τ σ :=
  let s := { s with world := st.sleep time s.world }
  if s.stopping then (true, s)
  else match s.ticks with
    | [] => (true, s)
    | tick :: rest => (false, { s with ticks := rest, tick? := some tick })

/-- The reply to an upload at a tick, or to the start of a session before the first. -/
def reply (s : Sitting τ σ) : HttpReply :=
  match s.tick? with
  | some tick => tick.reply
  | none => st.opening

variable [Duration τ]

/-- What a run comes to on its own. -/
def outcome (q : Playing σ) : Except Fault Result × σ :=
  st.injector.run (st.player.run q.command) q.world

/-- What a run attempts on its own. -/
def acts (q : Playing σ) : List (Attempt τ) := st.injector.acts (st.player.run q.command) q.world

def playing (q : Playing σ) (s : Sitting τ σ) : Sitting τ σ :=
  { s with world := (st.outcome q).2, played := s.played ++ [q], made := s.made ++ st.acts q }

def host : Host (sessions τ) Fault (Sitting τ σ)
  | .start, s => (.ok (), s.started)
  | .finish, s => (.ok (), { s with running := false })
  | .isStopping, s => (.ok s.stopping, s)
  | .play command, s => ((st.outcome ⟨command, s.world⟩).1, st.playing ⟨command, s.world⟩ s)
  | .today, s => (.ok (st.today s.world).1, { s with world := (st.today s.world).2 })
  | .remember action, s => (.ok (), s.noting action s.world)
  | .lastAction, s => (.ok s.last, s)
  | .report result, s => (.ok (), st.telling result s)
  | .complete summary, s => (.ok (), { s with completed := s.completed ++ [summary] })
  | .now, s => (.ok (st.now s.world).1, { s with world := (st.now s.world).2 })
  | .pause time, s => (.ok (), { s with world := st.sleep time s.world })
  | .wait time, s => (.ok (st.wait time s).1, (st.wait time s).2)
  | .describe, s => (.ok st.info, s)
  | .capture, s => (.ok (s.tick?.bind (·.picture?)), s)
  | .send request, s => (.ok (st.reply s), { s with sent := s.sent ++ [request] })
  | .opened session, s => (.ok (), { s with session? := some session })

def run {α : Type} (q : Session τ α) (s : Sitting τ σ) : Except Fault α × Sitting τ σ :=
  Program.run st.host q s

/-- A telling that answers a run: the result is what the run came to, and is that of the last action. -/
structure Tells (q : Playing σ) (t : Telling) : Prop where
  result : (st.outcome q).1 = .ok t.result
  command : t.result.command = q.command
  last : t.last.command = t.result.command
  running : t.running = true

variable {st} {r : ReplaySettings τ} {s : Sitting τ σ} {command : String}

theorem run_bind {α β : Type} (q : Session τ α) (f : α → Session τ β) (s : Sitting τ σ) :
    st.run (q >>= f) s = st.run (onResult f (st.run q s).1) (st.run q s).2 :=
  Program.run_bind st.host q f s

variable (st) in
theorem run_note (command : String) (s : Sitting τ σ) :
    ∃ time world, st.run (Session.note command) s = (.ok (), s.noting ⟨command, time⟩ world) :=
  ⟨_, _, rfl⟩

variable (st r) in
theorem run_pace (last : Option τ) (s : Sitting τ σ) :
    ∃ world, st.run (r.pace last) s = (.ok (), { s with world }) := by
  cases last with
  | none => exact ⟨s.world, rfl⟩
  | some start =>
    let remaining := Duration.since r.minInterval (Duration.since (st.now s.world).1 start)
    change ∃ world, st.run (if Duration.isPositive remaining then Session.pause remaining else pure ())
      { s with world := (st.now s.world).2 } = _
    split
    · exact ⟨_, rfl⟩
    · exact ⟨_, rfl⟩

/-- What a fetched command may come to. The flag to stop is looked at before the command is. -/
inductive Fetched (st : Station τ σ) (r : ReplaySettings τ) (command : String) (p : Progress τ)
    (s : Sitting τ σ) : Except Fault (Turn τ) × Sitting τ σ → Prop
  | stopped (asked : s.stopping = true) :
      Fetched st r command p s (.ok (.ended { p.summary with stopped := true }), s)
  | ended {time world} (goes : s.stopping = false) (isEnd : r.isEnd command = true) :
      Fetched st r command p s
        (.ok (.ended { p.summary with ended := true }), s.noting ⟨command, time⟩ world)
  | played {world result time after start} (goes : s.stopping = false) (other : r.isEnd command = false)
      (ran : (st.outcome ⟨command, world⟩).1 = .ok result) :
      Fetched st r command p s (.ok (.next ⟨p.summary.add r.keepResults result, some start⟩),
        st.telling result ((st.playing ⟨command, world⟩ s).noting ⟨command, time⟩ after))
  | raised {world fault} (ran : (st.outcome ⟨command, world⟩).1 = .error fault) :
      Fetched st r command p s (.error fault, st.playing ⟨command, world⟩ s)

/-- A command that is neither kept back nor the end is played wherever the clock has left the world. -/
theorem fetched_play (goes : s.stopping = false) (other : r.isEnd command = false) (p : Progress τ)
    (world : σ) :
    Fetched st r command p s (st.run (r.playing command p.summary) { s with world }) := by
  unfold ReplaySettings.playing
  rw [run_bind]
  change Fetched st r command p s (st.run (Session.play command >>= fun result => _)
    { s with world := (st.now world).2 })
  rw [run_bind]
  change Fetched st r command p s (st.run (onResult _ (st.outcome ⟨command, (st.now world).2⟩).1)
    (st.playing ⟨command, (st.now world).2⟩ s))
  cases ran : (st.outcome ⟨command, (st.now world).2⟩).1 with
  | error fault => exact .raised ran
  | ok result =>
    change Fetched st r command p s (st.run (Session.note command >>= fun _ => _)
      (st.playing ⟨command, (st.now world).2⟩ s))
    obtain ⟨time, after, noted⟩ := run_note st command (st.playing ⟨command, (st.now world).2⟩ s)
    rw [run_bind, noted]
    exact .played goes other ran

variable (st r) in
theorem fetched (paced : Bool) (command : String) (p : Progress τ) (s : Sitting τ σ) :
    Fetched st r command p s (st.run (r.turn paced command p) s) := by
  rw [ReplaySettings.turn_eq, run_bind]
  change Fetched st r command p s (st.run (if s.stopping = true then _ else _) s)
  split
  · next asked => exact .stopped asked
  · next goes =>
    have goes : s.stopping = false := by simpa using goes
    split
    · next isEnd => exact .ended goes isEnd
    · next other =>
      have other : r.isEnd command = false := by simpa using other
      cases paced with
      | false => exact fetched_play goes other p s.world
      | true =>
        obtain ⟨world, hw⟩ := run_pace st r p.last s
        rw [if_pos rfl, run_bind, hw]
        exact fetched_play goes other p world

/-- A command that was fetched is the only one that may be played. -/
theorem mem_of_played_turn {paced : Bool} {p : Progress τ} {q : Playing σ} {rest : List String}
    (hq : q ∈ (st.run (r.turn paced command p) s).2.played) :
    q ∈ s.played ∨ q.command ∈ command :: rest := by
  have step := fetched st r paced command p s
  generalize st.run (r.turn paced command p) s = out at hq step
  cases step with
  | stopped | ended => exact .inl hq
  | played | raised =>
    rcases List.mem_append.1 hq with hq | hq
    · exact .inl hq
    · rw [List.mem_singleton.1 hq]
      exact .inr List.mem_cons_self

theorem ticks_turn (paced : Bool) (command : String) (p : Progress τ) (s : Sitting τ σ) :
    (st.run (r.turn paced command p) s).2.ticks = s.ticks := by
  have step := fetched st r paced command p s
  generalize st.run (r.turn paced command p) s = out at step
  cases step <;> rfl

variable (st) in
/-- What is true between any two steps of a session, and of its summary: every run was told of, and each
count counts what was told. -/
structure Recounted (keep : Nat) (s : Sitting τ σ) (summary : Summary) : Prop where
  made : s.made = s.played.flatMap st.acts
  told : List.Forall₂ st.Tells s.played s.told
  executed : summary.executed = s.told.length
  failed : summary.failed = s.told.countP fun t => !t.result.isOk
  results : summary.results = Summary.lastOf keep (s.told.map (·.result))

variable (st) in
/-- What is true of a session that goes on, which had a last action before it. -/
structure Underway (keep : Nat) (first : LastAction) (s : Sitting τ σ) (summary : Summary) : Prop
    extends Recounted st keep s summary where
  noted : s.noted.map (·.command) = s.commands
  last : s.last = s.noted.getLast?.getD first
  running : s.running = true
  stopping : s.stopping = st.stopsAt s.played.length
  early : ∀ m, st.stopAfter = some m → s.played.length ≤ m.val
  ended : summary.ended = false
  stopped : summary.stopped = false

variable {keep : Nat} {first : LastAction} {summary : Summary}

@[simp] theorem commands_play (result : Result) (q : Playing σ) (action : LastAction) (world : σ) :
    (st.telling result ((st.playing q s).noting action world)).commands = s.commands ++ [q.command] :=
  List.map_append

/-- A command that was played leaves a session that goes on. -/
theorem Underway.play (h : Underway st keep first s summary) (goes : s.stopping = false) {world after : σ}
    {result : Result} (ran : (st.outcome ⟨command, world⟩).1 = .ok result) (time : Moment) :
    Underway st keep first
      (st.telling result ((st.playing ⟨command, world⟩ s).noting ⟨command, time⟩ after))
      (summary.add keep result) where
  made := by
    change s.made ++ _ = (s.played ++ _).flatMap _
    rw [h.made]
    simp
  told := by
    have named := st.player.command_of_run ran
    exact List.rel_append h.told (.cons ⟨ran, named, named.symm, h.running⟩ .nil)
  executed := by
    change summary.executed + 1 = (s.told ++ _).length
    rw [h.executed]
    simp
  failed := by
    change (if _ then _ else _) = (s.told ++ _).countP _
    rw [h.failed, List.countP_append]
    cases good : result.isOk <;> simp [good]
  results := by
    change Summary.lastOf keep (summary.results ++ _) = Summary.lastOf keep ((s.told ++ _).map _)
    rw [h.results, Summary.lastOf_concat, List.map_append]
    rfl
  noted := by
    change (s.noted ++ _).map _ = _
    rw [commands_play, List.map_append, h.noted]
    rfl
  last := by
    change _ = (s.noted ++ _).getLast?.getD first
    rw [List.getLast?_concat]
    rfl
  running := h.running
  stopping := by
    change (s.stopping || st.stopsAt (s.told.length + 1)) = st.stopsAt (s.played ++ _).length
    rw [goes, ← h.told.length_eq, Bool.false_or, List.length_append, List.length_singleton]
  early := by
    intro m hm
    -- the flag would have been up, had the last result been the one to stop after
    have short : s.played.length ≠ m.val := by
      intro same
      rw [h.stopping, Station.stopsAt, hm, same] at goes
      simp at goes
    have := h.early m hm
    change (s.played ++ _).length ≤ m.val
    rw [List.length_append, List.length_singleton]
    omega
  ended := h.ended
  stopped := h.stopped

/-- A session that has only just been started goes on. -/
theorem underway_before (world : σ) (stopping : Bool) (ticks : List TickOutcome) :
    Underway st keep first (Sitting.before world first stopping ticks).started .empty where
  made := rfl
  told := .nil
  executed := rfl
  failed := rfl
  results := (List.drop_nil ..).symm
  noted := rfl
  last := rfl
  running := rfl
  stopping := by
    change false = st.stopsAt 0
    unfold stopsAt
    cases st.stopAfter with
    | none => rfl
    | some m => simp [Nat.ne_of_gt m.pos]
  early := fun m _ => Nat.zero_le _
  ended := rfl
  stopped := rfl

/-- What a session asks of the backend is no part of what it plays. -/
theorem Underway.frame (h : Underway st keep first s summary) (world : σ) (ticks : List TickOutcome)
    (tick? : Option TickOutcome) (session? : Option String) (sent : List HttpRequest) :
    Underway st keep first { s with world, ticks, tick?, session?, sent } summary where
  made := h.made
  told := h.told
  executed := h.executed
  failed := h.failed
  results := h.results
  noted := h.noted
  last := h.last
  running := h.running
  stopping := h.stopping
  early := h.early
  ended := h.ended
  stopped := h.stopped

theorem run_finish {α : Type} (q : Session τ α) (s : Sitting τ σ) :
    st.run (q.afterwards Session.finish) s = ((st.run q s).1, { (st.run q s).2 with running := false }) :=
  Program.run_next st.host q _ s

/-- A session is over, however it ends, once what drives it is. -/
theorem run_drive (source : Progress τ → Session τ Summary) (s : Sitting τ σ) :
    st.run (Session.drive source) s = Sitting.closing (st.run (source ⟨.empty, none⟩) s.started) := by
  unfold Session.drive
  rw [run_bind]
  change st.run ((source ⟨.empty, none⟩).afterwards Session.finish >>= fun _ => _) s.started = _
  rw [run_bind, run_finish]
  rcases st.run (source ⟨.empty, none⟩) s.started with ⟨_ | _, _⟩ <;> rfl

/-- Every event is taken, time stands still and no one else does anything. -/
def still (stopAfter : Option Count) (opening : HttpReply) : Station Binary64 Unit where
  player := ⟨.standard, chordGestures⟩
  injector := .accepting
  now world := (.zero, world)
  today world := (Moment.ofDay 0, world)
  sleep _ world := world
  hear _ world := world
  stopAfter
  info := ⟨1920, 1080, "Linux"⟩
  opening

theorem still_types (text : List Char) :
    Injector.accepting.run (Player.typeEach (τ := Binary64) text) () = (.ok (), ()) := by
  induction text with
  | nil => rfl
  | cons c rest ih => exact ih

theorem still_typed {stopAfter : Option Count} {opening : HttpReply} {command text : String}
    (read : Command.parse command = .ok (.type text)) (world : Unit) :
    ∃ result, ((still stopAfter opening).outcome ⟨command, world⟩).1 = .ok result := by
  have run := Player.run_of_parse_single ⟨.standard, chordGestures⟩ read (by simp) .accepting world
  refine ⟨.succeeded command, (congrArg Prod.fst run).trans ?_⟩
  change settled command (Injector.accepting.run (Player.typeEach text.toList) ()).1 = _
  rw [still_types]
  rfl

theorem still_rejected {stopAfter : Option Count} {opening : HttpReply} {command : String}
    {e : CommandError} (read : Command.parse command = .error (.rejected e)) (world : Unit) :
    ∃ result, ((still stopAfter opening).outcome ⟨command, world⟩).1 = .ok result :=
  ⟨_, congrArg Prod.fst (Player.run_of_parse_rejected ⟨.standard, chordGestures⟩ read .accepting world)⟩

/-- Commands to type a letter and others that are malformed. -/
def fewCommands : List String := ["type:a", "nope", " END ", "END", "type:b"]

/-- Each of these commands has a result when nothing else happens. -/
theorem fewCommands_return {stopAfter : Option Count} {opening : HttpReply} {c : String}
    (hc : c ∈ fewCommands) (world : Unit) :
    ∃ result, ((still stopAfter opening).outcome ⟨c, world⟩).1 = .ok result := by
  simp only [fewCommands, List.mem_cons, List.not_mem_nil, or_false] at hc
  rcases hc with rfl | rfl | rfl | rfl | rfl
  · have read : Command.parse "type:a" = .ok (.type "a") := by decide +kernel
    exact still_typed read world
  · have read : Command.parse "nope" = .error (.rejected (.malformed "nope")) := by decide +kernel
    exact still_rejected read world
  · have read : Command.parse " END " = .error (.rejected (.malformed " END ")) := by decide +kernel
    exact still_rejected read world
  · have read : Command.parse "END" = .error (.rejected (.malformed "END")) := by decide +kernel
    exact still_rejected read world
  · have read : Command.parse "type:b" = .ok (.type "b") := by decide +kernel
    exact still_typed read world

end Station

end InputReplay
