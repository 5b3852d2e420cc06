import InputReplay.Backend.Http
import InputReplay.Program.Basic
import InputReplay.Session.Summary
import InputReplay.Time.Duration
import InputReplay.Time.Moment

/-! Sessions: programs that play one command after another and tell the results. What others can see
of a session, its last action and whether it runs, is kept by the host, and so is the request to
stop. -/

namespace InputReplay

structure LastAction where
  command : String
  time : Moment

/-- What a host tells of itself. The size of its screen is told as it is. -/
structure HostInfo where
  width : Int
  height : Int
  system : String

inductive SessionRequest (τ : Type) where
  /-- The session runs from now on; requests to stop that came before do not count. -/
  | start
  | finish
  | isStopping
  /-- Reads a command and plays it. -/
  | play (command : String)
  | today
  | remember (action : LastAction)
  | lastAction
  | report (result : Result)
  | complete (summary : Summary)
  | now
  | pause (time : τ)
  /-- Waits for a request to stop, but no longer than a time; the reply tells whether it came. -/
  | wait (time : τ)
  | describe
  /-- The picture of the screen, if it can be taken. -/
  | capture
  | send (request : HttpRequest)
  /-- The backend has named the session. -/
  | opened (session : String)

def SessionRequest.Reply {τ : Type} : SessionRequest τ → Type
  | isStopping => Bool
  | play _ => Result
  | today => Moment
  | lastAction => LastAction
  | now => τ
  | wait _ => Bool
  | describe => HostInfo
  | capture => Option (List UInt8)
  | send _ => HttpReply
  | _ => Unit

def sessions (τ : Type) : Signature := ⟨SessionRequest τ, SessionRequest.Reply⟩

abbrev Session (τ : Type) := Program (sessions τ) Fault

namespace Session

variable {τ α : Type}

def start : Session τ Unit := Program.request (S := sessions τ) .start
def finish : Session τ Unit := Program.request (S := sessions τ) .finish
def isStopping : Session τ Bool := Program.request (S := sessions τ) .isStopping
def play (command : String) : Session τ Result := Program.request (S := sessions τ) (.play command)
def today : Session τ Moment := Program.request (S := sessions τ) .today
def remember (a : LastAction) : Session τ Unit := Program.request (S := sessions τ) (.remember a)
def lastAction : Session τ LastAction := Program.request (S := sessions τ) .lastAction
def report (r : Result) : Session τ Unit := Program.request (S := sessions τ) (.report r)
def complete (s : Summary) : Session τ Unit := Program.request (S := sessions τ) (.complete s)
def now : Session τ τ := Program.request (S := sessions τ) .now
def pause (time : τ) : Session τ Unit := Program.request (S := sessions τ) (.pause time)
def wait (time : τ) : Session τ Bool := Program.request (S := sessions τ) (.wait time)
def describe : Session τ HostInfo := Program.request (S := sessions τ) .describe
def capture : Session τ (Option (List UInt8)) := Program.request (S := sessions τ) .capture
def send (r : HttpRequest) : Session τ HttpReply := Program.request (S := sessions τ) (.send r)
def opened (session : String) : Session τ Unit :=
  Program.request (S := sessions τ) (.opened session)

/-- Remembers a command as the last action, done now. -/
def note (command : String) : Session τ Unit := do
  remember ⟨command, ← today⟩

end Session

end InputReplay
