import InputReplay.Play.Basic

/-! Gestures as key chords: modifiers, and one key that is pressed with them. -/

namespace InputReplay

namespace Gesture

/-- The keys of a gesture, in the order they are pressed. -/
def chord : Gesture → List KeyCode
  | swipeLeft => [.controlLeft, .leftArrow]
  | swipeRight => [.controlLeft, .rightArrow]
  | swipeUp => [.controlLeft, .upArrow]
  | swipeDown => [.controlLeft, .downArrow]
  | zoomIn => [.controlLeft, .equal]
  | zoomOut => [.controlLeft, .minus]
  | zoomReset => [.controlLeft, .digit0]
  | enterExitFullScreen => [.commandLeft, .controlLeft, .f]
  | toggleFullScreen => [.commandLeft, .controlLeft, .f]
  | minimizeWindow => [.commandLeft, .m]
  | closeWindow => [.commandLeft, .w]

end Gesture

abbrev GestureRunner (τ : Type) := Gesture → Play τ Unit

/-- Performs gestures by posting their chords. -/
def chordGestures {τ : Type} : GestureRunner τ := fun kind => Play.chord kind.chord

end InputReplay
