import InputReplay.Desktop.Controller
import InputReplay.Observe.Listener
import InputReplay.Play.Lock
import InputReplay.Play.Player
import InputReplay.Session.Basic

/-! A stage: a host in memory on which everything can be played without touching a real one. Its clock
is advanced by pauses alone, its calendar by readings, and what happens on it is seen in order. It can
be told to refuse events, to fail calls, and to let an intruder play while an event is posted. -/

namespace InputReplay

inductive Observation where
  | accepted (event : Event)
  | refused (event : Event)
  | paused (time : Binary64)
  | launched (command : List String) (timeout : Binary64)
  | called (call : ToolkitCall)
  | intruded (outcome : Except Fault Result)
  | waited (time : Binary64)
  | sent (request : HttpRequest)
  | listening (device : String) (act : String)

/-- A rule that refuses events: each that applies, or only the one with a number among them. -/
structure Refusal where
  applies : Event → Bool
  only : Option Nat
  /-- What is raised instead of a plain refusal. -/
  fault : Option Fault
  hits : Nat

/-- A command played by an intruder when an event is posted, numbered from one. -/
structure Intrusion where
  moment : Nat
  command : String
  otherThread : Bool

structure Tick where
  stop : Bool
  flag : Bool
  interrupt : Bool
  captureFails : Bool
  reply : HttpReply

/-- What was told of a result: the command, whether it was good, the last action, and whether the
session was running. -/
structure Told where
  command : String
  ok : Bool
  lastAction : String
  running : Bool

structure Stage where
  clock : Binary64
  /-- How often the calendar was read. -/
  readings : Nat
  posted : Nat
  kept : Nat
  rules : List Refusal
  lock : Lock Nat
  /-- What was seen, the last first. -/
  seen : List Observation
  last : LastAction
  running : Bool
  stopping : Bool
  /-- Whether the source of a live session has been asked to stop. -/
  sourceStopping : Bool
  session : Option String
  ticks : List Tick
  tick : Option Tick
  told : List Told
  completed : List Summary
  /-- By how much the clock is advanced after results. -/
  advances : List Binary64
  recorder : Recorder
  listening : Bool

namespace Stage

/-- The calendar starts with the year 2024 and goes on by a quarter of a second at each reading. -/
def calendar (reading : Nat) : Moment := (Moment.ofDay 19723).later (250000 * reading)

def empty : Stage where
  clock := .zero
  readings := 0
  posted := 0
  kept := 0
  rules := []
  lock := .free
  seen := []
  last := ⟨"No action", calendar 0⟩
  running := false
  stopping := false
  sourceStopping := false
  session := none
  ticks := []
  tick := none
  told := []
  completed := []
  advances := []
  recorder := .ofSize 1024
  listening := false

def see (s : Stage) (o : Observation) : Stage := { s with seen := o :: s.seen }

def takeSeen (s : Stage) : List Observation × Stage := (s.seen.reverse, { s with seen := [] })

def read (s : Stage) : Moment × Stage :=
  (calendar (s.readings + 1), { s with readings := s.readings + 1 })

def advance (s : Stage) (time : Binary64) : Stage := { s with clock := s.clock + time }

def pause (s : Stage) (time : Binary64) : Stage := (s.advance time).see (.paused time)

/-! The lock. -/

def enter (s : Stage) (thread : Nat) : Bool × Stage :=
  ((s.lock.enter thread).1, { s with lock := (s.lock.enter thread).2 })

def leave (s : Stage) : Stage := { s with lock := s.lock.leave }

/-! Posting events. -/

/-- The first rule that fires on an event, and the rules with their counts after it. -/
def check (e : Event) : List Refusal → Option Refusal × List Refusal
  | [] => (none, [])
  | r :: rest =>
    if r.applies e then
      let r := { r with hits := r.hits + 1 }
      if r.only.all (· == r.hits) then (some r, r :: rest)
      else
        let (fired, rest) := check e rest
        (fired, r :: rest)
    else
      let (fired, rest) := check e rest
      (fired, r :: rest)

def record (e : Event) (s : Stage) : Except Fault Unit × Stage :=
  match check e s.rules with
  | (some r, rules) =>
    (.error (r.fault.getD (.injection (.refused e))), { s with rules := rules }.see (.refused e))
  | (none, rules) =>
    (.ok (), { s with rules := rules, kept := s.kept + 1 }.see (.accepted e))

def post (e : Event) (s : Stage) : Except Fault Unit × Stage :=
  record e { s with posted := s.posted + 1 }

/-- Plays on the stage as one thread. Scripts end with a given outcome. -/
def host (outcome : ScriptOutcome) (thread : Nat) : Host (playing Binary64) Fault Stage
  | .enter, s => ((s.enter thread).1 |> .ok, (s.enter thread).2)
  | .leave, s => (.ok (), s.leave)
  | .post e, s => post e s
  | .pause time, s => (.ok (), s.pause time)
  | .launch command timeout, s => (.ok outcome, s.see (.launched command timeout))

def intrude (player : Player Binary64) (outcome : ScriptOutcome) (i : Intrusion) (s : Stage) : Stage :=
  let (result, s) := (player.run i.command).run (host outcome (if i.otherThread then 1 else 0)) s
  s.see (.intruded result)

/-- Plays on the stage as the first thread, with an intruder. -/
def hostWith (player : Player Binary64) (outcome : ScriptOutcome) (i : Option Intrusion) :
    Host (playing Binary64) Fault Stage
  | .post e, s =>
    let s := { s with posted := s.posted + 1 }
    match i with
    | some i => record e (if i.moment = s.posted then s.intrude player outcome i else s)
    | none => record e s
  | .enter, s => host outcome 0 .enter s
  | .leave, s => host outcome 0 .leave s
  | .pause time, s => host outcome 0 (.pause time) s
  | .launch command timeout, s => host outcome 0 (.launch command timeout) s

/-- Toolkits whose calls are seen, and fail as they are told to. -/
def toolkits (position : Point) (fails : ToolkitCall → Option Fault) : Host desktop Fault Stage
  | .call c, s =>
    (match fails c with
      | some fault => .error fault
      | none => .ok (), s.see (.called c))
  | .position, s => (.ok position, s)

end Stage

end InputReplay
