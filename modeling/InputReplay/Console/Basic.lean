import InputReplay.Desktop.Controller
import InputReplay.Observe.Recorder
import InputReplay.Session.Basic
import InputReplay.Settings.Basic
import InputReplay.Text.ControlSequence

/-! Consoles: programs that tell lines, read and write files, and act on a host through its desktop, its
sessions and its listeners. -/

namespace InputReplay

/-- What there is on a host: the size of the screen, if the screen toolkit is there, the devices, and
a program that runs scripts. -/
structure Equipment where
  screen : Option (Int × Int)
  devices : Bool
  scripts : Bool

inductive ConsoleRequest where
  | say (line : String)
  | warn (line : String)
  | hasFile (path : String)
  | readFile (path : String)
  | writeFile (path text : String)
  | equipment
  /-- Notes an event instead of posting it. -/
  | keep (event : Event)
  | kept
  | play (request : PlayRequest Binary64)
  | desk (request : DesktopRequest)
  | session (request : SessionRequest Binary64)
  /-- Starts the listeners; what they tell goes to a recorder of a size. -/
  | listen (size : Count)
  | stopListening
  /-- What was recorded, and how many events were dropped. -/
  | recorded

def ConsoleRequest.Reply : ConsoleRequest → Type
  | hasFile _ => Bool
  | readFile _ => List UInt8
  | equipment => Equipment
  | kept => List Event
  | play request => request.Reply
  | desk request => request.Reply
  | session request => request.Reply
  | recorded => List RecordedEvent × Nat
  | _ => Unit

def consoles : Signature := ⟨ConsoleRequest, ConsoleRequest.Reply⟩

abbrev Console := Program consoles Fault

namespace Console

/-- Tells a line, without what only terminals understand. -/
def say (line : String) : Console Unit :=
  Program.request (S := consoles) (.say (ControlSequence.remove line))

/-- Tells a line beside what is told. -/
def warn (line : String) : Console Unit :=
  Program.request (S := consoles) (.warn (ControlSequence.remove line))

def hasFile (path : String) : Console Bool := Program.request (S := consoles) (.hasFile path)
def readFile (path : String) : Console (List UInt8) :=
  Program.request (S := consoles) (.readFile path)
def writeFile (path text : String) : Console Unit :=
  Program.request (S := consoles) (.writeFile path text)
def equipment : Console Equipment := Program.request (S := consoles) .equipment
def kept : Console (List Event) := Program.request (S := consoles) .kept
def listen (size : Count) : Console Unit := Program.request (S := consoles) (.listen size)
def stopListening : Console Unit := Program.request (S := consoles) .stopListening
def recorded : Console (List RecordedEvent × Nat) := Program.request (S := consoles) .recorded
def pause (time : Binary64) : Console Unit :=
  Program.request (S := consoles) (.session (.pause time))

def fail {α : Type} (fault : Fault) : Console α := Program.throw fault

def ofExcept {α : Type} (result : Except Fault α) : Console α := Program.ofExcept result

/-- Plays with events noted and not posted. -/
def onPaper : (r : PlayRequest Binary64) → Console r.Reply
  | .post e => Program.request (S := consoles) (.keep e)
  | .enter => Program.request (S := consoles) (.play .enter)
  | .leave => Program.request (S := consoles) (.play .leave)
  | .pause time => Program.request (S := consoles) (.play (.pause time))
  | .launch command timeout => Program.request (S := consoles) (.play (.launch command timeout))

/-- Plays with events posted through toolkits. -/
def onDesk (t : Toolkits) : (r : PlayRequest Binary64) → Console r.Reply
  | .post e =>
    (Desktop.post t e).interpret fun r => Program.request (S := consoles) (.desk r)
  | r => Program.request (S := consoles) (.play r)

/-- What a session asks for, with commands played and results told by programs of their own. -/
def holding (play : String → Console Result) (tell : Result → Console Unit) :
    (r : SessionRequest Binary64) → Console r.Reply
  | .play command => play command
  | .report result => tell result
  | r => Program.request (S := consoles) (.session r)

def hold {α : Type} (play : String → Console Result) (tell : Result → Console Unit)
    (s : Session Binary64 α) : Console α := s.interpret (holding play tell)

def outcome {α : Type} (c : Console α) : Console (Except Fault α) := c.attempt

end Console

end InputReplay
