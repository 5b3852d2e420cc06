import InputReplay.Rehearsal.Stage

/-! Listening on a stage: what the listeners of the keyboard and the mouse tell is recorded with the
time at which it was told. -/

namespace InputReplay
namespace Stage

/-- Records an event; the calendar is read even when there is no room for it. -/
def publish (s : Stage) (e : ObservedEvent) : Bool × Stage :=
  let (time, s) := s.read
  let (kept, recorder) := s.recorder.publish time e
  (kept, { s with recorder })

/-- Records what was heard, if it is an event. -/
def hear (s : Stage) (h : Heard) : Except Fault Unit × Stage :=
  match h.event? with
  | .ok (some e) => (.ok (), (s.publish e).2)
  | .ok none => (.ok (), s)
  | .error why => (.error (.noInteger why), s)

def drain (s : Stage) : List RecordedEvent × Stage :=
  let (events, recorder) := s.recorder.drain
  (events, { s with recorder })

def startListening (s : Stage) : Stage :=
  { s with listening := true }.see (.listening "keyboard" "start") |>.see (.listening "mouse" "start")

/-- Stops both listeners, one after the other, if they were started. -/
def stopListening (s : Stage) : Stage :=
  if s.listening then
    { s with listening := false }.see (.listening "keyboard" "stop")
      |>.see (.listening "keyboard" "join")
      |>.see (.listening "mouse" "stop")
      |>.see (.listening "mouse" "join")
  else s

end Stage
end InputReplay
