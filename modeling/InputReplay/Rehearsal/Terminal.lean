import InputReplay.Console.Basic
import InputReplay.Rehearsal.Files
import InputReplay.Rehearsal.Listening
import InputReplay.Rehearsal.Session

/-! Consoles on a stage: files in memory, lines that are kept, and listeners that tell what they are
given at the first pause. -/

namespace InputReplay

structure Terminal where
  stage : Stage
  files : Files
  said : String
  warned : String
  noted : List Event
  /-- What the listeners will tell. -/
  news : List Heard

structure TerminalRehearsal where
  equipment : Equipment
  desk : Host desktop Fault Stage
  /-- How scripts end. -/
  outcome : ScriptOutcome
  session : Rehearsal
  /-- Whether every pause is interrupted when it is over. -/
  interrupts : Bool

namespace Terminal

def onStage {α : Type} (act : Stage → α × Stage) (t : Terminal) : α × Terminal :=
  ((act t.stage).1, { t with stage := (act t.stage).2 })

def orFault {α : Type} (path : String) : Except PathFault α → Except Fault α :=
  Except.mapError (PathFault.toFault path)

def hasFile (t : Terminal) (path : String) : Except Fault Bool := orFault path (t.files.has path)

def readFile (t : Terminal) (path : String) : Except Fault (List UInt8) :=
  orFault path (Utf8.encode <$> t.files.read (Path.plain path))

def writeFile (t : Terminal) (path text : String) : Except Fault Unit × Terminal :=
  let (written, files) := t.files.write path text
  (orFault path written, { t with files })

/-- A line as it is kept: the two characters of a line end count as one. -/
def kept (line : String) : String := (line ++ "\n").replace "\r\n" "\n"

/-- The listeners tell what they hear, up to the first fault. -/
def hearAll : List Heard → Stage → Except Fault Unit × Stage
  | [], s => (.ok (), s)
  | h :: rest, s =>
    match s.hear h with
    | (.ok (), s) => hearAll rest s
    | (.error fault, s) => (.error fault, s)

end Terminal

namespace TerminalRehearsal

def pause (r : TerminalRehearsal) (time : Binary64) (t : Terminal) :
    Except Fault Unit × Terminal :=
  let stage := t.stage.pause time
  let (heard, stage) := if stage.listening then Terminal.hearAll t.news stage else (.ok (), stage)
  let t := { t with stage, news := [] }
  match heard with
  | .error fault => (.error fault, t)
  | .ok () => (if r.interrupts then .error (.interrupted "") else .ok (), t)

def host (r : TerminalRehearsal) : Host consoles Fault Terminal
  | .say line, t => (.ok (), { t with said := t.said ++ Terminal.kept line })
  | .warn line, t => (.ok (), { t with warned := t.warned ++ Terminal.kept line })
  | .hasFile path, t => (t.hasFile path, t)
  | .readFile path, t => (t.readFile path, t)
  | .writeFile path text, t => t.writeFile path text
  | .equipment, t => (.ok r.equipment, t)
  | .keep e, t => (.ok (), { t with noted := t.noted ++ [e] })
  | .kept, t => (.ok t.noted, t)
  | .play (.pause time), t => r.pause time t
  | .play request, t => t.onStage (Stage.host r.outcome 0 request)
  | .desk request, t => t.onStage (r.desk request)
  | .session (.pause time), t => r.pause time t
  | .session request, t => t.onStage (r.session.host request)
  | .listen size, t =>
    (.ok (), { t with stage := { t.stage with recorder := .ofSize size.val }.startListening })
  | .stopListening, t => (.ok (), { t with stage := t.stage.stopListening })
  | .recorded, t =>
    let (events, stage) := t.stage.drain
    (.ok (events, t.stage.recorder.dropped), { t with stage })

end TerminalRehearsal

end InputReplay
