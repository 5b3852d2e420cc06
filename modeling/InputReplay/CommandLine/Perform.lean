import InputReplay.CommandLine.Invocation
import InputReplay.Gesture.Script
import InputReplay.Log.Basic
import InputReplay.Play.Player
import InputReplay.Session.Live
import InputReplay.Settings.File
import InputReplay.Text.Path

/-! Performing what a command line asks for. -/

namespace InputReplay
namespace CommandLine

/-- The settings of a file, or the standard ones without a file. -/
def settings : Option String → Job Settings
  | none => pure .standard
  | some path => do
    let bytes ← Console.readFile path
    match Utf8.decode bytes with
    | .error fault => throw (.unreadable fault)
    | .ok text =>
      match Settings.read (String.ofList text) with
      | .error fault => throw (.unsettled fault)
      | .ok s => pure s

/-- How commands are played: on paper in a dry run, else on the desktop of the host. -/
def player (s : Settings) (dryRun : Bool) : Console (String → Console Result) := do
  if dryRun then
    let p : Player Binary64 := ⟨s.play, chordGestures⟩
    return fun command => (p.run command).interpret Console.onPaper
  else
    let e ← Console.equipment
    let toolkits ← Console.ofExcept (Toolkits.of e.screen.isSome e.devices)
    let gestures := match s.play.gestures with
      | .chord => chordGestures
      | .script => ScriptRunner.standard.gestures
    let p : Player Binary64 := ⟨s.play, gestures⟩
    return fun command => (p.run command).interpret (Console.onDesk toolkits)

def tellSummary (s : Summary) : Console Unit := do
  Console.say "\n✅ Session finished"
  Console.say s!"   - {s.executed} commands executed"
  Console.say s!"   - {s.failed} failed"
  if s.ended then Console.say "   - Ended by the server"
  if s.stopped then Console.say "   - Stopped"

def tellResult (r : Result) : Console Unit :=
  let mark := if r.isOk then "✓" else "✗"
  Console.say s!"   {mark} {r.describe}"

def run (ticks : Nat) (prompt : String) (config url : Option String) : Job Unit := do
  let s ← settings config
  let address := match url with
    | some url => if url = "" then s.backend.url else url
    | none => s.backend.url
  Console.say s!"🌐 Connecting to backend: {address}"
  let play ← player s false
  let tell := fun _ => pure ()
  (Console.hold play tell (Session.note "No action") : Console Unit)
  let backend ← (Console.ofExcept (Backend.ofAddress address) : Console Backend)
  let source : LiveSource Binary64 := ⟨backend, prompt, s.backend.screenshotInterval⟩
  match ← Console.outcome (Console.hold play tell (source.hold s.replay ticks)) with
  | .ok summary => tellSummary summary
  | .error (.failure (.backend why)) => do
    Console.warn s!"❌ Could not start session: {why.message}"
    throw .failed
  | .error (.interrupted _) => Console.say "\n⏹️  Session interrupted"
  | .error fault => Console.fail fault

def readLog (path : String) : Job RecordedLog := do
  match RecordedLog.ofBytes (← Console.readFile path) with
  | .ok log => pure log
  | .error fault => throw (.unreadable fault)

def replay (path : String) (interval : Option Binary64) (dryRun : Bool) (config : Option String) :
    Job Unit := do
  let s ← settings config
  let r := { s.replay with minInterval := interval.getD s.replay.minInterval }
  let log ← readLog path
  Console.say s!"🎮 Loaded {log.length} commands from: {Path.plain path}"
  let play ← player s dryRun
  (Console.hold play tellResult (Session.note "No action") : Console Unit)
  if dryRun then Console.say "\n📋 Dry run - events are recorded, not posted"
  match ← Console.outcome (Console.hold play tellResult (r.replay true log.commands)) with
  | .ok summary => do
    tellSummary summary
    if dryRun then
      let events ← Console.kept
      Console.say s!"   - {events.length} input events"
  | .error (.interrupted _) => Console.say "\n⏹️  Replay interrupted"
  | .error fault => Console.fail fault

/-- Plays commands and tells their results; the count of those that failed. -/
def playEach (play : String → Console Result) : List String → Console Nat
  | [] => pure 0
  | command :: rest => do
    let r ← play command
    if r.isOk then do
      Console.say s!"✅ {r.describe}"
      playEach play rest
    else do
      Console.warn s!"❌ {r.describe}"
      let failed ← playEach play rest
      return failed + 1

def tellEvents : Nat → List Event → Console Unit
  | _, [] => pure ()
  | number, e :: rest => do
    Console.say s!"   {number}. {e.shown}"
    tellEvents (number + 1) rest

def exec (commands : List String) (dryRun : Bool) (config : Option String) : Job Unit := do
  let s ← settings config
  let play ← player s dryRun
  let failed ← playEach play commands
  if dryRun then
    let events ← Console.kept
    Console.say s!"\n📋 Dry run - {events.length} input events:"
    tellEvents 1 events
  if failed ≠ 0 then throw .failed

/-- Pauses; an interruption ends the pause. -/
def pauseFor (seconds : Binary64) : Console Unit :=
  (Console.pause seconds).next fun
    | .ok _ => pure ()
    | .error (.interrupted _) => Console.say "\n⏹️  Recording interrupted"
    | .error fault => Console.fail fault

/-- Lets the listeners tell what they hear for some time, and stops them however that ends. -/
def listenFor (seconds : Binary64) : Console Unit :=
  (pauseFor seconds).afterwards Console.stopListening

def record (output : String) (seconds : Binary64) (config : Option String) : Job Unit := do
  let s ← settings config
  Console.say s!"🔴 Recording input for {seconds.briefText}s..."
  let e ← Console.equipment
  if !e.devices then Console.fail .noListener
  Console.listen s.queueSize
  listenFor seconds
  let (events, dropped) ← Console.recorded
  let path := Path.plain output
  if Path.suffix output = ".jsonl" then
    Console.writeFile path (RecordedEvent.linesText events)
    Console.say s!"✅ {events.length} events written to: {path}"
  else
    let log := RecordedLog.ofEvents events
    Console.writeFile path log.text
    Console.say s!"✅ {log.length} commands written to: {path}"
  if dropped ≠ 0 then Console.say s!"⚠️  {dropped} events dropped (queue full)"

def check : Console Unit := do
  Console.say "🔍 Checking input backends...\n"
  let e ← Console.equipment
  match e.screen with
  | some (width, height) => Console.say s!"  ✅ pyautogui available (screen {width}x{height})"
  | none => Console.say "  ⚠️  pyautogui not installed"
  Console.say (if e.devices then "  ✅ pynput available" else "  ⚠️  pynput not installed")
  Console.say (if e.scripts then "  ✅ osascript available (applescript gestures)"
    else "  ⚠️  osascript not found, use gesture_backend: chord")

/-- Carries out an invocation; a live session has at most so many ticks. -/
def carryOut (ticks : Nat) : Invocation → Job Unit
  | .version => Console.say "main, version 0.1.0"
  | .help usage => usage.forM fun line => Console.say line
  | .run prompt config url => run ticks prompt config url
  | .replay log interval dryRun config => replay log interval dryRun config
  | .exec commands dryRun config => exec commands dryRun config
  | .record output seconds config => record output seconds config
  | .check => check

/-- Tells why a command line ended early, where the commands have not told it yet. -/
def tellExit : Exit → Console Unit
  | .misused error => Console.warn s!"Error: {error.message}"
  | .idle => Word.overview.forM Console.warn
  | _ => pure ()

/-- How the work ended. An interruption that no command expects ends it as a failure. -/
def conclude : Except Fault (Except Exit Unit) → Console Exit
  | .ok (.ok ()) => pure .done
  | .ok (.error exit) => do
    tellExit exit
    return exit
  | .error (.interrupted _) => do
    Console.warn "\nAborted!"
    return .failed
  | .error fault => Console.fail fault

def perform (ticks : Nat) (words : List String) : Console Exit :=
  Program.next conclude (read words >>= carryOut ticks).run

end CommandLine
end InputReplay
