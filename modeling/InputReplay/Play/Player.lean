import InputReplay.Command.Batch
import InputReplay.Gesture.Chord
import InputReplay.Play.Result

/-! Playing an action as the events and pauses that make it up, and a command as its action. What an
action presses it releases, also when something fails in between. A batch plays its commands in order
and goes on past those that fail; it reads all of them before it plays the first. -/

namespace InputReplay

structure Player (τ : Type) where
  settings : PlaySettings τ
  gestures : GestureRunner τ

namespace Player

variable {τ : Type} [Duration τ] (p : Player τ)

def mouse (kind : MouseKind) (point : Point) : Event := .mouse kind point .left none

def typeEach : List Char → Play τ Unit
  | [] => pure ()
  | c :: rest => do
    Play.post (.key (.text c.toString) true)
    Play.post (.key (.text c.toString) false)
    typeEach rest

def type (text : String) : Play τ Unit := typeEach text.toList

/-- Clicks, numbered from `index` on, with a pause between any two. -/
def clicks (point : Point) (button : Button) (index : Nat) : Nat → Play τ Unit
  | 0 => pure ()
  | more + 1 => do
    Play.post (.mouse .down point button (some index))
    Play.post (.mouse .up point button (some index))
    if more ≠ 0 then Play.pause p.settings.clickSettle
    clicks point button (index + 1) more

def click (point : Point) (button : Button) (count : Int) : Play τ Unit :=
  p.clicks point button 1 count.toNat

/-- The points of a drag from the `i`-th of `steps` on, with a pause after each. -/
def dragPoints (start finish : Point) (pause : τ) (steps i : Nat) : Nat → Play τ Unit
  | 0 => pure ()
  | more + 1 => do
    Play.post (mouse .drag (start.lerp finish (.ofRatio false i steps)))
    Play.pause pause
    dragPoints start finish pause steps (i + 1) more

/-- Presses the left button, moves in equal steps and releases it at the end. -/
def drag (start finish : Point) : Play τ Unit := do
  let steps := p.settings.dragSteps.val
  match Duration.part p.settings.dragDuration steps with
  | none => .throw .tooManyParts
  | some pause =>
    Play.post (mouse .down start)
    Play.whileHeld [mouse .up finish] (dragPoints start finish pause steps 1 steps)

def holdClick (point : Point) (modifier : KeyCode) (count : Int) : Play τ Unit := do
  Play.post (Play.pressKey modifier)
  Play.whileHeld [Play.releaseKey modifier] do
    Play.post (mouse .move point)
    p.click point .left count

/-- Plays an action that is no batch. -/
def perform : Action → Play τ Unit
  | .key code down => Play.post (.key (.code code) down)
  | .press code => do
    Play.post (Play.pressKey code)
    Play.post (Play.releaseKey code)
  | .type text => type text
  | .click point button count => p.click point button count
  | .move point => Play.post (mouse .move point)
  | .drag start finish => p.drag start finish
  | .scroll delta => Play.post (.scroll (.exactly delta) none)
  | .scrollTo point => do
    Play.post (mouse .move point)
    Play.post (.scroll p.settings.scrollToAmount (some point))
  | .shortcut codes => Play.chord codes
  | .holdClick point modifier count => p.holdClick point modifier count
  | .autocomplete typed full => do
    type typed
    Play.pause p.settings.autocompleteSettle
    type (completion typed full)
  | .gesture kind => p.gestures kind
  | .batch _ => pure ()

/-- The result of a program that plays one action: its failure is reported, and any other fault
leaves. -/
def report (label : String) (body : Play τ Unit) : Play τ Result :=
  body.next fun
    | .ok _ => pure (.succeeded label)
    | .error (.failure f) => pure (.failed label f)
    | .error fault => .throw fault

mutual

/-- Plays an action under a label, holding the lock. -/
def play (label : String) (action : Action) : Play τ Result :=
  match action with
  | .batch commands =>
    Play.locked <| match _h : Command.expand commands with
      | .ok entries => Result.batch label <$> playEach entries
      | .error numeral => .throw (.numeralTooLong numeral)
  | single => Play.locked (report label (p.perform single))
termination_by action.size
decreasing_by
  have := Command.total_restSize_le _h
  simp only [Action.size]
  omega

def playEach (entries : List (String × Except CommandError Action)) : Play τ (List Result) :=
  match entries with
  | [] => pure []
  | (command, .error e) :: rest => do
    return .failed command (.command e) :: (← playEach rest)
  | (command, .ok action) :: rest => do
    let result ← play command action
    return result :: (← playEach rest)
termination_by total Command.restSize entries
decreasing_by
  all_goals simp only [total, Command.restSize]; omega

end

/-- Plays an action that was not read from a command, or that was read from one with a label. -/
def execute (action : Action) (command : String) : Play τ Result :=
  p.play (if command = "" then action.label else command) action

def run (command : String) : Play τ Result :=
  match Command.parse command with
  | .ok action => p.execute action command
  | .error (.rejected e) => pure (.failed command (.command e))
  | .error (.tooLong numeral) => .throw (.numeralTooLong numeral)

end Player

end InputReplay
