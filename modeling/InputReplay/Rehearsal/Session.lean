import InputReplay.Rehearsal.Stage

/-! Sessions on a stage. -/

namespace InputReplay

structure Rehearsal where
  /-- Plays one command. -/
  play : String → Stage → Except Fault Result × Stage
  /-- The number of the result after which the session is asked to stop. -/
  stopAfter : Option Nat
  /-- Whether a live source is asked to stop apart from its session. -/
  ownFlag : Bool
  info : HostInfo
  /-- What the backend answers when a session is started. -/
  opening : HttpReply

namespace Rehearsal

/-- Four bytes, the highest first. -/
def word (n : Nat) : List UInt8 :=
  [n / 16777216, n / 65536, n / 256, n].map fun b => UInt8.ofNat (b % 256)

def pictureStart : List UInt8 :=
  [0x89, 0x50, 0x4e, 0x47, 0x0d, 0x0a, 0x1a, 0x0a, 0, 0, 0, 13, 0x49, 0x48, 0x44, 0x52]

/-- A picture of a size, of which only the head is written. -/
def picture (width height : Nat) : List UInt8 := pictureStart ++ word width ++ word height

/-- Tells a result: it is seen, may ask the session to stop, and takes its time. -/
def tell (r : Rehearsal) (result : Result) (s : Stage) : Stage :=
  let told := s.told ++ [⟨result.command, result.isOk, s.last.command, s.running⟩]
  let s := { s with told, stopping := s.stopping || r.stopAfter == some told.length }
  match s.advances with
  | [] => s
  | time :: rest => { s with advances := rest }.advance time

def raiseFlag (r : Rehearsal) (s : Stage) : Stage :=
  if r.ownFlag then { s with sourceStopping := true } else { s with stopping := true }

def flag (r : Rehearsal) (s : Stage) : Bool := if r.ownFlag then s.sourceStopping else s.stopping

/-- Waits for a tick. No tick comes once the source is asked to stop or the ticks are used up. -/
def wait (r : Rehearsal) (time : Binary64) (s : Stage) : Except Fault Bool × Stage :=
  let s := s.see (.waited time)
  if r.flag s then (.ok true, s)
  else match s.ticks with
    | [] => (.ok true, s)
    | tick :: rest =>
      let s := { s with ticks := rest, tick := some tick }
      if tick.stop then (.ok true, r.raiseFlag s)
      else
        let s := if tick.flag then r.raiseFlag s else s
        if tick.interrupt then (.error (.interrupted ""), s) else (.ok false, s)

def reply (r : Rehearsal) (s : Stage) : HttpReply :=
  match s.tick with
  | some tick => tick.reply
  | none => r.opening

/-- What is told of the screen, which has no negative size. -/
def described (r : Rehearsal) : Except Fault HostInfo :=
  if r.info.width < 0 ∨ r.info.height < 0 then
    .error (.host "ValueError" "Width and height must be >= 0")
  else .ok r.info

/-- The picture at a tick. There is none of a screen without any points. -/
def captured (r : Rehearsal) (s : Stage) : Except Fault (Option (List UInt8)) :=
  if s.tick.any (·.captureFails) then .ok none
  else if r.info.width = 0 ∨ r.info.height = 0 then
    .error (.host "ValueError" "cannot write empty image")
  else .ok (some (picture r.info.width.toNat r.info.height.toNat))

def host (r : Rehearsal) : Host (sessions Binary64) Fault Stage
  | .start, s => (.ok (), { s with running := true, stopping := false })
  | .finish, s => (.ok (), { s with running := false })
  | .isStopping, s => (.ok s.stopping, s)
  | .play command, s => r.play command s
  | .today, s => (.ok s.read.1, s.read.2)
  | .remember action, s => (.ok (), { s with last := action })
  | .lastAction, s => (.ok s.last, s)
  | .report result, s => (.ok (), r.tell result s)
  | .complete summary, s => (.ok (), { s with completed := s.completed ++ [summary] })
  | .now, s => (.ok s.clock, s)
  | .pause time, s => (.ok (), s.pause time)
  | .wait time, s => r.wait time s
  | .describe, s => (r.described, s)
  | .capture, s => (r.captured s, s)
  | .send request, s => (.ok (r.reply s), s.see (.sent request))
  | .opened session, s => (.ok (), { s with session := some session })

end Rehearsal

end InputReplay
