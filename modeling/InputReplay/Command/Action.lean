import InputReplay.Key.Code
import InputReplay.Number.Binary64

/-! Actions: what a command asks for, with every field validated. -/

namespace InputReplay

/-- A place on the screen. It is never clamped. -/
structure Point where
  x : Binary64
  y : Binary64
deriving DecidableEq

/-- The point a fraction `t` of the way from `p` to `q`. -/
def Point.lerp (p q : Point) (t : Binary64) : Point :=
  ⟨p.x + (q.x - p.x) * t, p.y + (q.y - p.y) * t⟩

inductive Button where
  | left
  | right
  | middle
deriving DecidableEq

def Button.name : Button → String
  | .left => "left"
  | .right => "right"
  | .middle => "middle"

def Button.ofName? (name : String) : Option Button :=
  [Button.left, .right, .middle].find? (·.name == name)

/-- Gestures of the touchpad and actions on windows. -/
inductive Gesture where
  | swipeLeft | swipeRight | swipeUp | swipeDown
  | zoomIn | zoomOut | zoomReset
  | enterExitFullScreen | toggleFullScreen | minimizeWindow | closeWindow
deriving DecidableEq

namespace Gesture

def name : Gesture → String
  | swipeLeft => "swipe left"
  | swipeRight => "swipe right"
  | swipeUp => "swipe up"
  | swipeDown => "swipe down"
  | zoomIn => "zoom in"
  | zoomOut => "zoom out"
  | zoomReset => "zoom reset"
  | enterExitFullScreen => "enter_exit_full_screen"
  | toggleFullScreen => "toggle_full_screen"
  | minimizeWindow => "minimize_window"
  | closeWindow => "close_window"

def all : List Gesture :=
  [swipeLeft, swipeRight, swipeUp, swipeDown, zoomIn, zoomOut, zoomReset, enterExitFullScreen,
    toggleFullScreen, minimizeWindow, closeWindow]

def ofName? (name : String) : Option Gesture := all.find? (·.name == name)

/-- Whether a gesture is made on the touchpad; the others act on windows. -/
def isTouchpad : Gesture → Bool
  | enterExitFullScreen | toggleFullScreen | minimizeWindow | closeWindow => false
  | _ => true

end Gesture

/-- What a command asks for. A shortcut lists its keys in the order they are pressed, repeats kept;
a batch holds its commands unread. -/
inductive Action where
  | key (code : KeyCode) (down : Bool)
  | press (code : KeyCode)
  | type (text : String)
  | click (point : Point) (button : Button) (count : Int)
  | move (point : Point)
  | drag (start finish : Point)
  | scroll (delta : Binary64)
  | scrollTo (point : Point)
  | shortcut (codes : List KeyCode)
  | holdClick (point : Point) (modifier : KeyCode) (count : Int)
  | autocomplete (typed full : String)
  | gesture (kind : Gesture)
  | batch (commands : List String)
deriving DecidableEq

namespace Action

/-- The name of an action that was not read from a command. -/
def label : Action → String
  | key .. => "KeyEvent"
  | press .. => "KeyPress"
  | type .. => "TypeText"
  | click .. => "Click"
  | move .. => "Move"
  | drag .. => "Drag"
  | scroll .. => "Scroll"
  | scrollTo .. => "ScrollTo"
  | shortcut .. => "Shortcut"
  | holdClick .. => "HoldClick"
  | autocomplete .. => "Autocomplete"
  | gesture .. => "Gesture"
  | batch .. => "Batch"

end Action

/-- What is left to type of a full text after its beginning, counted in code points. -/
def completion (typed full : String) : String :=
  String.ofList (full.toList.drop typed.toList.length)

end InputReplay
