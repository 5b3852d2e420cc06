import InputReplay.Gesture.Chord

/-! Gestures as scripts: the host is asked to press a key with modifiers. A chord fits into a script
when it holds exactly one key that is no modifier. -/

namespace InputReplay

/-- What a script says of a modifier; some modifiers cannot be said. -/
def KeyCode.scriptModifier? : KeyCode → Option String
  | commandLeft | commandRight => some "command down"
  | controlLeft | controlRight => some "control down"
  | optionLeft | optionRight => some "option down"
  | shiftLeft | shiftRight => some "shift down"
  | _ => none

/-- The script that presses one key with modifiers. -/
def scriptText (key : KeyCode) (modifiers : List String) : String :=
  let held := if modifiers = [] then ""
    else " using \x7b" ++ ", ".intercalate modifiers ++ "\x7d"
  "tell application \"System Events\"\n    key code " ++ toString key.number ++ held ++ "\nend tell"

def scriptFor (chord : List KeyCode) : Except Fault String :=
  match chord.filter (!·.isModifier) with
  | [key] => .ok (scriptText key (chord.filterMap KeyCode.scriptModifier?))
  | _ => .error (.unfitChord chord)

/-- The program that runs scripts and the limit on its time, in seconds. -/
structure ScriptRunner where
  program : String
  timeout : Binary64

namespace ScriptRunner

def standard : ScriptRunner := ⟨"osascript", .ofNat 10⟩

def commandShown (command : List String) : String :=
  "[" ++ ", ".intercalate (command.map quoted) ++ "]"

/-- Why a script was not run to its end. -/
def reason? (r : ScriptRunner) (command : List String) : ScriptOutcome → Option String
  | .exited .. => none
  | .notStarted number why => some s!"[Errno {number}] {why}: {quoted r.program}"
  | .timedOut =>
    some s!"Command '{commandShown command}' timed out after {r.timeout.text} seconds"

def failure? (r : ScriptRunner) (kind : Gesture) (command : List String) :
    ScriptOutcome → Option GestureFailure
  | .exited code errors => if code = 0 then none else some (.exitCode kind code errors)
  | outcome => (r.reason? command outcome).map (.notRun kind)

def gestures {τ : Type} (r : ScriptRunner) : GestureRunner τ := fun kind => do
  let script ← Program.ofExcept (scriptFor kind.chord)
  let command := [r.program, "-e", script]
  let outcome ← Play.launch command r.timeout
  match r.failure? kind command outcome with
  | some failure => Play.fail (.gesture failure)
  | none => pure ()

end ScriptRunner

end InputReplay
