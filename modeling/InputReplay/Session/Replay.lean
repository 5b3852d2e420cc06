import InputReplay.Session.Basic
import InputReplay.Settings.Basic
import InputReplay.Text.Blank

/-! Driving a session: commands are played strictly one after another until there are none left, the
end sentinel comes or the session is asked to stop. A request to stop is seen when the next command
has been fetched, never within a command. Recorded commands are paced: from the start of one to the
start of the next there is a least time. -/

namespace InputReplay

namespace Session

variable {τ : Type}

/-- A session in between two commands: its summary and when the last command was started. -/
structure Progress (τ : Type) where
  summary : Summary
  last : Option τ

/-- What a fetched command does: the session ends with a summary, or goes on. -/
inductive Turn (τ : Type) where
  | ended (summary : Summary)
  | next (progress : Progress τ)

/-- A session over a source of commands. It counts as running until it is over, however it ends. -/
def drive (source : Progress τ → Session τ Summary) : Session τ Summary := do
  Session.start
  let summary ← (source ⟨.empty, none⟩).afterwards Session.finish
  Session.complete summary
  return summary

end Session

namespace ReplaySettings

open Session (Progress Turn)

variable {τ : Type} [Duration τ] (r : ReplaySettings τ)

def isEnd (command : String) : Bool := stripText command == r.endSentinel

/-- Pauses for what is left of the least time since the last start. -/
def pace (last : Option τ) : Session τ Unit := do
  match last with
  | none => pure ()
  | some start =>
    let remaining := Duration.since r.minInterval (Duration.since (← Session.now) start)
    if Duration.isPositive remaining then Session.pause remaining

/-- One command, which has been fetched. -/
def turn (paced : Bool) (command : String) (p : Progress τ) : Session τ (Turn τ) := do
  let stopping ← Session.isStopping
  if stopping then
    return .ended { p.summary with stopped := true }
  else if r.isEnd command then do
    Session.note command
    return .ended { p.summary with ended := true }
  else do
    if paced then r.pace p.last
    let start ← Session.now
    let result ← Session.play command
    Session.note command
    Session.report result
    return .next ⟨p.summary.add r.keepResults result, some start⟩

/-- Commands of a source that does not look at the request to stop. -/
def playEach (paced : Bool) : List String → Progress τ → Session τ Summary
  | [], p => pure p.summary
  | command :: rest, p => do
    match ← r.turn paced command p with
    | .ended summary => pure summary
    | .next p => playEach paced rest p

/-- The most results that can be kept. -/
def keepLimit : Nat := 0x7fffffffffffffff

/-- A session, if as many results can be kept as it is to keep. -/
def keeping (session : Session τ Summary) : Session τ Summary :=
  if r.keepResults ≤ keepLimit then session else .throw .tooManyKept

def replay (paced : Bool) (commands : List String) : Session τ Summary :=
  r.keeping (Session.drive (r.playEach paced commands))

end ReplaySettings

end InputReplay
