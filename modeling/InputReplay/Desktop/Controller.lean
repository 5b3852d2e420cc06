import InputReplay.Desktop.Names
import InputReplay.Play.Basic

/-! Posting events through the toolkits of a desktop. The screen toolkit takes every event but texts
it has no key for, which go to the keyboard device; without the screen toolkit the keyboard and the
mouse device take them all, and the cursor is put in place first. A toolkit's own errors become
failures; a coordinate that has no integer does not. -/

namespace InputReplay

inductive ToolkitCall where
  | keyDown (name : String)
  | keyUp (name : String)
  | mouseDown (x y : Int) (button : Button)
  | mouseUp (x y : Int) (button : Button)
  | moveTo (x y : Int)
  | dragTo (x y : Int) (button : Button)
  | scroll (units : Int) (place : Option (Int × Int))
  | pressKey (key : DeviceKey)
  | releaseKey (key : DeviceKey)
  | placeCursor (x y : Int)
  | pressButton (button : Button)
  | releaseButton (button : Button)
  | turnWheel (units : Int)
deriving DecidableEq

def ToolkitCall.name : ToolkitCall → String
  | keyDown _ => "keyDown"
  | keyUp _ => "keyUp"
  | mouseDown .. => "mouseDown"
  | mouseUp .. => "mouseUp"
  | moveTo .. => "moveTo"
  | dragTo .. => "dragTo"
  | scroll .. => "scroll"
  | pressKey _ => "press"
  | releaseKey _ => "release"
  | placeCursor .. => "move"
  | pressButton _ => "press"
  | releaseButton _ => "release"
  | turnWheel _ => "scroll"

inductive DesktopRequest where
  | call (call : ToolkitCall)
  | position

def DesktopRequest.Reply : DesktopRequest → Type
  | call _ => Unit
  | position => Point

def desktop : Signature := ⟨DesktopRequest, DesktopRequest.Reply⟩

abbrev DesktopProgram := Program desktop Fault

/-- The screen toolkit: which texts it has a key for, and whether a keyboard device types the others. -/
structure ScreenToolkit where
  hasKey : String → Bool
  withKeyboard : Bool

/-- The screen toolkit with a key for every single ASCII character. -/
def ScreenToolkit.ascii (withKeyboard : Bool) : ScreenToolkit where
  hasKey text := match text.toList with
    | [c] => decide (c.toNat < 128)
    | _ => false
  withKeyboard := withKeyboard

/-- Which toolkits a desktop has: the screen toolkit, with or without the devices, or them alone. -/
inductive Toolkits where
  | screen (toolkit : ScreenToolkit)
  | devices

/-- The toolkits of a desktop; there must be some. -/
def Toolkits.of (screen devices : Bool) : Except Fault Toolkits :=
  if screen then .ok (.screen (.ascii devices))
  else if devices then .ok .devices
  else .error .noToolkit

namespace Desktop

/-- Makes a call. What goes wrong in it is a failure to post, unless it is an interruption. -/
def call (c : ToolkitCall) : DesktopProgram Unit :=
  Program.next (fun
    | .ok _ => pure ()
    | .error (.interrupted reason) => .throw (.interrupted reason)
    | .error fault =>
      if fault.isInjection then .throw fault
      else .throw (.injection (.callFailed c.name fault.message)))
    (Program.request (S := desktop) (.call c))

def position : DesktopProgram Point := Program.request (S := desktop) .position

def integer (n : Except NotFinite Int) : DesktopProgram Int :=
  Program.ofExcept (n.mapError .noInteger)

def pixel (p : Point) : DesktopProgram (Int × Int) := do
  let x ← integer p.x.round
  let y ← integer p.y.round
  return (x, y)

def keyOnScreen (name : String) (down : Bool) : DesktopProgram Unit :=
  call (if down then .keyDown name else .keyUp name)

def keyOnDevice (key : DeviceKey) (down : Bool) : DesktopProgram Unit :=
  call (if down then .pressKey key else .releaseKey key)

def postText (text : String) (down : Bool) : Toolkits → DesktopProgram Unit
  | .screen toolkit =>
    if toolkit.hasKey text then keyOnScreen text down
    else if toolkit.withKeyboard then keyOnDevice (.text text) down
    else .throw (.injection (.untypable text))
  | .devices => keyOnDevice (.text text) down

def postCode (key : KeyCode) (down : Bool) : Toolkits → DesktopProgram Unit
  | .screen _ => keyOnScreen key.screenName down
  | .devices =>
    match key.deviceKey? with
    | some k => keyOnDevice k down
    | none => .throw (.injection (.unknownToToolkit key))

def postKey (payload : KeyPayload) (down : Bool) (t : Toolkits) : DesktopProgram Unit :=
  match payload with
  | .text text => postText text down t
  | .code key => postCode key down t
  | .nothing => .throw (.injection .nothingToPress)

def mouseOnScreen (kind : MouseKind) (x y : Int) (button : Button) : ToolkitCall :=
  match kind with
  | .down => .mouseDown x y button
  | .up => .mouseUp x y button
  | .move => .moveTo x y
  | .drag => .dragTo x y button

def postMouse (kind : MouseKind) (point : Point) (button : Button) (t : Toolkits) :
    DesktopProgram Unit := do
  let (x, y) ← pixel point
  match t with
  | .screen _ => call (mouseOnScreen kind x y button)
  | .devices =>
    call (.placeCursor x y)
    match kind with
    | .down => call (.pressButton button)
    | .up => call (.releaseButton button)
    | _ => pure ()

def postScroll (amount : ScrollAmount) (point : Option Point) (t : Toolkits) :
    DesktopProgram Unit := do
  let units ← integer amount.value.scrollUnits
  match t with
  | .screen _ =>
    match point with
    | some p => do
      let place ← pixel p
      call (.scroll units (some place))
    | none => call (.scroll units none)
  | .devices => do
    match point with
    | some p => postMouse .move p .left t
    | none => pure ()
    call (.turnWheel units)

def post (t : Toolkits) : Event → DesktopProgram Unit
  | .key payload down => postKey payload down t
  | .mouse kind point button _ => postMouse kind point button t
  | .scroll amount point => postScroll amount point t

/-- A host that posts events through toolkits and leaves all other requests to another. -/
def host {τ σ : Type} (t : Toolkits) (answer : Host desktop Fault σ)
    (other : Host (playing τ) Fault σ) : Host (playing τ) Fault σ
  | .post e, s => (post t e).run answer s
  | .enter, s => other .enter s
  | .leave, s => other .leave s
  | .pause time, s => other (.pause time) s
  | .launch command timeout, s => other (.launch command timeout) s

end Desktop

end InputReplay
