import InputReplay.CommandLine.Perform

/-! The program. It has no toolkits of a desktop, no listeners and no network: commands are played on
paper, and what would need one of them is told so. -/

namespace InputReplay
namespace Main

/-- What the program remembers while it runs. -/
structure Memory where
  last : LastAction
  running : Bool
  stopping : Bool
  kept : List Event

abbrev Answering := StateT Memory IO

/-- Microseconds since the clock was started. -/
def elapsed : Answering Nat := do return 1000 * (← IO.monoMsNow)

def sleep (time : Binary64) : Answering Unit := do
  let milliseconds := match (time * Binary64.ofNat 1000).truncate with
    | .ok n => n.toNat
    | .error _ => 0
  IO.sleep (UInt32.ofNat (min milliseconds 4000000000))

def onFile {α : Type} (path : String) (action : IO α) : Answering (Except Fault α) := do
  try return .ok (← action)
  catch _ => return .error (.directory path)

def writeFile (path text : String) : IO Unit := do
  let parent := (Path.parts path).dropLast
  if parent ≠ [] then
    IO.FS.createDirAll (Path.root path ++ String.ofList (joinFields '/' parent))
  IO.FS.writeFile path text

def answerPlay : (r : PlayRequest Binary64) → Answering (Except Fault r.Reply)
  | .enter => return .ok true
  | .leave => return .ok ()
  | .post _ => return .error .noToolkit
  | .pause time => do
    sleep time
    return .ok ()
  | .launch .. => return .ok (.notStarted 2 "No such file or directory")

def answerSession : (r : SessionRequest Binary64) → Answering (Except Fault r.Reply)
  | .start => do
    modify fun m => { m with running := true, stopping := false }
    return .ok ()
  | .finish => do
    modify fun m => { m with running := false }
    return .ok ()
  | .isStopping => return .ok (← get).stopping
  | .play _ => return .error .noToolkit
  | .today => return .ok ((Moment.ofDay 0).later (← elapsed))
  | .remember action => do
    modify fun m => { m with last := action }
    return .ok ()
  | .lastAction => return .ok (← get).last
  | .report _ => return .ok ()
  | .complete _ => return .ok ()
  | .now => return .ok (.ofRatio false (← elapsed) 1000000)
  | .pause time => do
    sleep time
    return .ok ()
  | .wait _ => return .error .noToolkit
  | .describe => return .ok ⟨0, 0, ""⟩
  | .capture => return .ok none
  | .send _ => return .ok (.noResponse "Network is unreachable")
  | .opened _ => return .ok ()

def answer : (r : ConsoleRequest) → Answering (Except Fault r.Reply)
  | .say line => do
    IO.println line
    return .ok ()
  | .warn line => do
    IO.eprintln line
    return .ok ()
  | .hasFile path => return .ok (← onFile path (IO.FS.readBinFile path)).toBool
  | .readFile path => return (← onFile path (IO.FS.readBinFile path)).map (·.data.toList)
  | .writeFile path text => onFile path (writeFile path text)
  | .equipment => return .ok ⟨none, false, false⟩
  | .keep e => do
    modify fun m => { m with kept := e :: m.kept }
    return .ok ()
  | .kept => return .ok (← get).kept.reverse
  | .play r => answerPlay r
  | .desk _ => return .error .noToolkit
  | .session r => answerSession r
  | .listen _ => return .error .noListener
  | .stopListening => return .ok ()
  | .recorded => return .ok ([], 0)

/-- How many ticks a live session may have. -/
def ticks : Nat := 1000000000

/-- Runs a command line; the reply is its exit code. -/
def run (words : List String) : IO UInt32 := do
  let memory : Memory := ⟨⟨"No action", .ofDay 0⟩, false, false, []⟩
  let (ended, _) ← ((CommandLine.perform ticks words).runWith answer).run memory
  match ended with
  | .ok exit => return UInt32.ofNat exit.code
  | .error fault => do
    IO.eprintln fault.message
    return 1

end Main
end InputReplay

def main (words : List String) : IO UInt32 := InputReplay.Main.run words
