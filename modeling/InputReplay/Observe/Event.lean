import InputReplay.Command.Action
import InputReplay.Document.Checked
import InputReplay.Document.Json

/-! Observed events: what a user did with the keyboard and the mouse. An event has a document form and,
if the commands have a word for it, a command that does the same. -/

namespace InputReplay

inductive ObservedEvent where
  | key (name : String) (special down : Bool)
  | button (down : Bool) (number x y : Int)
  | move (x y : Int)
  | scroll (delta : Int)
deriving DecidableEq

namespace ObservedEvent

def buttonNumber : Button → Int
  | .left => 0
  | .right => 1
  | .middle => 2

/-! Building events. Coordinates are cut to integers. -/

def ofKey (key : KeyCode) (down : Bool) : ObservedEvent :=
  .key key.name (KeyCode.isSpecialNumber key.number) down

def ofButton (button : Button) (down : Bool) (point : Point) : Except NotFinite ObservedEvent := do
  return .button down (buttonNumber button) (← point.x.truncate) (← point.y.truncate)

def ofMove (point : Point) : Except NotFinite ObservedEvent := do
  return .move (← point.x.truncate) (← point.y.truncate)

/-! Document form. -/

def actionName (down : Bool) : String := if down then "press" else "release"

def toValue : ObservedEvent → Value
  | key name special down => .object [
      ("type", .text "key_press"), ("key", .text name), ("special", .bool special),
      ("action", .text (actionName down))]
  | button down number x y => .object [
      ("type", .text "mouse_event"), ("action", .text (actionName down)),
      ("button", .int number), ("x", .int x), ("y", .int y)]
  | move x y => .object [("type", .text "mouse_move"), ("x", .int x), ("y", .int y)]
  | scroll delta => .object [("type", .text "scroll_wheel"), ("deltaY", .int delta)]

def json (e : ObservedEvent) : String := Json.render e.toValue

open Value

def actions : List (String × Bool) := [("press", true), ("release", false)]

/-- The type of a document may be left out, but not be another one. -/
def checkType (v : Value) (name : String) : Checked Unit :=
  v.field "type" (asChoice [(name, ())]) ()

def checkKey (v : Value) : Checked ObservedEvent :=
  (fun _ name special down => .key name special down)
    <$> checkType v "key_press"
    <*> v.required "key" asText
    <*> v.required "special" asFlag
    <*> v.required "action" (asChoice actions)

def checkButton (v : Value) : Checked ObservedEvent :=
  (fun _ down number x y => .button down number x y)
    <$> checkType v "mouse_event"
    <*> v.required "action" (asChoice actions)
    <*> v.required "button" asInteger
    <*> v.required "x" asInteger
    <*> v.required "y" asInteger

def checkMove (v : Value) : Checked ObservedEvent :=
  (fun _ x y => .move x y)
    <$> checkType v "mouse_move"
    <*> v.required "x" asInteger
    <*> v.required "y" asInteger

/-- The amount of a scroll may be written under either of two names. -/
def checkScroll (v : Value) : Checked ObservedEvent :=
  let amount := if (v.get? "deltaY").isNone ∧ (v.get? "delta_y").isSome then "delta_y" else "deltaY"
  (fun _ delta => .scroll delta)
    <$> checkType v "scroll_wheel"
    <*> v.required amount asInteger

/-- The command that does what was observed. A button that goes down has none: its click is told when
it comes up. -/
def command? : ObservedEvent → Option String
  | key name _ down => some ((if down then "key-down:" else "key-up:") ++ name)
  | button true _ _ _ => none
  | button false number x y =>
    if number = buttonNumber .left then some s!"click:{x},{y}"
    else if number = buttonNumber .right then some s!"right-click:{x},{y}"
    else none
  | move x y => some s!"move:{x},{y}"
  | scroll delta => some s!"scroll:{delta}"

end ObservedEvent

end InputReplay
