import InputReplay.Log.Basic
import InputReplay.Observe.Event
import InputReplay.Time.Moment

/-! A bounded buffer of observed events: first in, first out. An event that finds the buffer full is
dropped and counted. -/

namespace InputReplay

structure RecordedEvent where
  time : String
  event : ObservedEvent
deriving DecidableEq

/-- The buffer, the oldest event first. Without a limit it is never full. -/
structure Recorder where
  limit : Option Nat
  buffer : List RecordedEvent
  dropped : Nat

namespace Recorder

/-- An empty buffer; a size that is not positive is no limit. -/
def ofSize (size : Int) : Recorder := ⟨if size ≤ 0 then none else some size.toNat, [], 0⟩

def isFull (r : Recorder) : Bool :=
  match r.limit with
  | some n => decide (n ≤ r.buffer.length)
  | none => false

/-- Adds an event observed at a moment; tells whether there was room for it. -/
def publish (r : Recorder) (time : Moment) (event : ObservedEvent) : Bool × Recorder :=
  if r.isFull then (false, { r with dropped := r.dropped + 1 })
  else (true, { r with buffer := r.buffer ++ [⟨time.logText, event⟩] })

def drain (r : Recorder) : List RecordedEvent × Recorder := (r.buffer, { r with buffer := [] })

end Recorder

/-- The log of observed events; those without a command are left out. -/
def RecordedLog.ofEvents (events : List RecordedEvent) : RecordedLog :=
  events.filterMap fun e => e.event.command?.map fun c => ⟨some e.time, c⟩

/-- Observed events as documents, one on each line. -/
def RecordedEvent.linesText (events : List RecordedEvent) : String :=
  String.join <| events.map fun e =>
    Json.render (.object [("timestamp", .text e.time), ("event", e.event.toValue)]) ++ "\n"

end InputReplay
