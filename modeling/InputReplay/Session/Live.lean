import InputReplay.Backend.Client
import InputReplay.Session.Replay

/-! Live sessions: at every tick the screen and the last action are sent to the backend, and the
instruction that comes back, if there is one, is played. A tick without an instruction, for whatever
reason, changes nothing. -/

namespace InputReplay

structure LiveSource (τ : Type) where
  backend : Backend
  prompt : String
  /-- The time between two ticks. -/
  interval : τ

namespace LiveSource

open Session (Progress Turn)

variable {τ : Type} [Duration τ] (l : LiveSource τ)

/-- The instruction in an answer of the backend; a failure of the backend is none. A code that no character
has is replaced in it, though no upload could be made of such a command once it is the last action. -/
def instruction? : Except Fault Value → Session τ (Option String)
  | .ok answer => pure (Backend.word? answer "next_action")
  | .error (.failure (.backend _)) => pure none
  | .error fault => .throw fault

/-- Sends the screen and gets the next instruction, if there is one. -/
def exchange (session : String) : Session τ (Option String) := do
  match ← Session.capture with
  | none => pure none
  | some picture => do
    let last ← Session.lastAction
    let time ← Session.today
    let answer := l.backend.sendScreenshot session picture last.command last.time.isoText
      time.isoText
    answer.next instruction?

/-- The ticks of a session, of which there are at most `ticks`. -/
def playTicks (r : ReplaySettings τ) (session : String) : Nat → Progress τ → Session τ Summary
  | 0, p => pure p.summary
  | ticks + 1, p => do
    let stopped ← Session.wait l.interval
    if stopped then pure p.summary
    else match ← l.exchange session with
      | none => playTicks r session ticks p
      | some command => do
        match ← r.turn false command p with
        | .ended summary => pure summary
        | .next p => playTicks r session ticks p

def begin : Session τ String := do
  let host ← Session.describe
  let session ← l.backend.startSession l.prompt (Backend.info host)
  Session.opened session
  return session

/-- Holds a live session of at most so many ticks. -/
def hold (r : ReplaySettings τ) (ticks : Nat) : Session τ Summary :=
  r.keeping <| Session.drive fun p => do
    let session ← l.begin
    l.playTicks r session ticks p

end LiveSource

end InputReplay
