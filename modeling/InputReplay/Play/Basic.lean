import InputReplay.Play.Fault
import InputReplay.Program.Basic

/-! Playing: programs that post events to a host, pause, and hold the host's lock while they do. The
lock may be taken again by whoever holds it. -/

namespace InputReplay

inductive PlayRequest (τ : Type) where
  /-- Takes the lock; the reply tells whether it was free or already held by the one who asks. -/
  | enter
  | leave
  | post (event : Event)
  | pause (time : τ)
  /-- Runs a program of the host with a limit on its time, in seconds. -/
  | launch (command : List String) (timeout : Binary64)

def PlayRequest.Reply {τ : Type} : PlayRequest τ → Type
  | enter => Bool
  | launch .. => ScriptOutcome
  | _ => Unit

def playing (τ : Type) : Signature := ⟨PlayRequest τ, PlayRequest.Reply⟩

abbrev Play (τ : Type) := Program (playing τ) Fault

namespace Play

variable {τ α : Type}

def post (e : Event) : Play τ Unit := Program.request (S := playing τ) (.post e)

/-- Takes the lock, unless another holds it. -/
def enter : Play τ Bool := Program.request (S := playing τ) .enter

def leave : Play τ Unit := Program.request (S := playing τ) .leave

def pressKey (key : KeyCode) : Event := .key (.code key) true

def releaseKey (key : KeyCode) : Event := .key (.code key) false

def fail (f : Failure) : Play τ α := .throw (.failure f)

/-- Pauses for a positive time. -/
def pause [Duration τ] (time : τ) : Play τ Unit :=
  if Duration.isPositive time then Program.request (S := playing τ) (.pause time) else pure ()

theorem pause_cases [Duration τ] (time : τ) :
    (Duration.isPositive time = true ∧ pause time = Program.request (S := playing τ) (.pause time)) ∨
    (Duration.isPositive time ≠ true ∧ pause time = pure ()) := by
  by_cases h : Duration.isPositive time = true
  · exact .inl ⟨h, if_pos h⟩
  · exact .inr ⟨h, if_neg h⟩

def launch (command : List String) (timeout : Binary64) : Play τ ScriptOutcome :=
  Program.request (S := playing τ) (.launch command timeout)

/-- Posts every release. One that is refused does not keep the others from being posted, and the
first of these faults is told; any other fault leaves at once. -/
def releaseEach : List Event → Play τ (Option Fault)
  | [] => pure none
  | e :: rest => (post e).next fun
    | .ok _ => releaseEach rest
    | .error fault =>
      if fault.isInjection then (fun _ => some fault) <$> releaseEach rest else .throw fault

/-- Posts the releases after a fault, which stays the one that is told. -/
def releaseAfter (releases : List Event) (fault : Fault) : Play τ α := do
  let _ ← releaseEach releases
  .throw fault

/-- Posts the releases after a success; a release that was refused is told. -/
def releaseFinally (releases : List Event) : Play τ Unit := do
  match ← releaseEach releases with
  | some fault => .throw fault
  | none => pure ()

/-- Plays what is held between presses and their releases. -/
def whileHeld (releases : List Event) (body : Play τ Unit) : Play τ Unit :=
  body.next fun
    | .ok _ => releaseFinally releases
    | .error fault => releaseAfter releases fault

/-- Presses keys in order and releases them, the last one first. What is down when a press fails is
released. -/
def chordOver (releases : List Event) : List KeyCode → Play τ Unit
  | [] => releaseFinally releases
  | key :: rest => (post (pressKey key)).next fun
    | .ok _ => chordOver (releaseKey key :: releases) rest
    | .error fault => releaseAfter releases fault

def chord (keys : List KeyCode) : Play τ Unit := chordOver [] keys

/-- Holds the lock while a program plays. -/
def locked (body : Play τ α) : Play τ α := do
  if ← enter then body.afterwards leave else .throw .busy

end Play

end InputReplay
