import InputReplay.Command.Error
import InputReplay.Play.Event
import InputReplay.Text.Blank

/-! What can go wrong while actions are played. A failure is recoverable: it becomes part of a result
and playing goes on with the next command. Any other fault leaves at once. -/

namespace InputReplay

inductive InjectionFailure where
  | refused (event : Event)
  | callFailed (call reason : String)
  | nothingToPress
  | untypable (text : String)
  | unknownToToolkit (key : KeyCode)
  | other (reason : String)
deriving DecidableEq

def InjectionFailure.message : InjectionFailure → String
  | refused e => s!"Host refused {e.device} event: {e.shown}"
  | callFailed call reason => s!"{call} failed: {reason}"
  | nothingToPress => "Key event needs a key code or a text payload"
  | untypable text =>
    s!"Cannot type {quoted text} with pyautogui; install pynput for Unicode text"
  | unknownToToolkit key => s!"pynput cannot post key {quoted key.name}"
  | other reason => reason

/-- How the run of a script ended. -/
inductive ScriptOutcome where
  | exited (code : Int) (errors : String)
  | notStarted (number : Int) (reason : String)
  | timedOut
deriving DecidableEq

inductive GestureFailure where
  | exitCode (kind : Gesture) (code : Int) (errors : String)
  | notRun (kind : Gesture) (reason : String)
  | other (reason : String)
deriving DecidableEq

def GestureFailure.message : GestureFailure → String
  | exitCode kind code errors =>
    s!"osascript exited with {code} for {quoted kind.name}: {stripText errors}"
  | notRun kind reason => s!"Failed to run osascript for {quoted kind.name}: {reason}"
  | other reason => reason

inductive BackendFailure where
  | network (reason : String)
  | status (code : Int)
  | notJson
  | notObject (kind : String)
  | noSession (shown : String)
deriving DecidableEq

def BackendFailure.message : BackendFailure → String
  | network reason => s!"Network error: {reason}"
  | status code => s!"Backend returned {code}"
  | notJson => "Invalid JSON response"
  | notObject kind => s!"Expected a JSON object, got {kind}"
  | noSession shown => s!"No session_id in response: {shown}"

inductive Failure where
  | command (error : CommandError)
  | execution (reason : String)
  | injection (cause : InjectionFailure)
  | gesture (cause : GestureFailure)
  | backend (cause : BackendFailure)
deriving DecidableEq

def Failure.message : Failure → String
  | command error => error.message
  | execution reason => reason
  | injection cause => cause.message
  | gesture cause => cause.message
  | backend cause => cause.message

/-- What can leave a program. -/
inductive Fault where
  | failure (failure : Failure)
  | numeralTooLong (numeral : NumeralTooLong)
  | noInteger (why : NotFinite)
  | tooManyParts
  /-- More results are to be kept than can be. -/
  | tooManyKept
  | busy
  | unfitChord (codes : List KeyCode)
  | noToolkit
  | noListener
  /-- A directory stands where a file should. -/
  | directory (path : String)
  /-- An error of the host, by the host's name for its kind. -/
  | host (kind reason : String)
  | interrupted (reason : String)
deriving DecidableEq

def KeyCode.shownTuple (codes : List KeyCode) : String :=
  "(" ++ ", ".intercalate (codes.map KeyCode.shown) ++ (if codes.length = 1 then ",)" else ")")

def NotFinite.message : NotFinite → String
  | infinity => "cannot convert float infinity to integer"
  | nan => "cannot convert float NaN to integer"

namespace Fault

def message : Fault → String
  | failure f => f.message
  | numeralTooLong n => n.message
  | noInteger why => why.message
  | tooManyParts => "int too large to convert to float"
  | tooManyKept => "Python int too large to convert to C ssize_t"
  | busy => "Dispatcher is already executing on another thread"
  | unfitChord codes =>
    s!"Chord must contain exactly one non-modifier key: {KeyCode.shownTuple codes}"
  | noToolkit =>
    "No input control library available. Install with: pip install pyautogui pynput"
  | noListener => "No input listener available. Install with: pip install pynput"
  | directory path => s!"[Errno 21] Is a directory: {quoted path}"
  | host _ reason => reason
  | interrupted reason => reason

def injection (cause : InjectionFailure) : Fault := failure (.injection cause)

def gesture (cause : GestureFailure) : Fault := failure (.gesture cause)

def backend (cause : BackendFailure) : Fault := failure (.backend cause)

/-- Whether a fault says that an event was not posted. -/
def isInjection : Fault → Bool
  | failure (.injection _) => true
  | _ => false

end Fault

end InputReplay
