import InputReplay.Command.Action
import InputReplay.Number.Digits
import InputReplay.Settings.Basic

/-! Input events: what is posted to a host, one at a time. A key event carries a key or the text that
a key would type. -/

namespace InputReplay

inductive KeyPayload where
  | code (key : KeyCode)
  | text (text : String)
  | nothing
deriving DecidableEq

/-- The payload of a key and a text of which either may be absent; a text comes first. -/
def KeyPayload.of (key : Option KeyCode) (text : Option String) : KeyPayload :=
  match text, key with
  | some t, _ => .text t
  | none, some key => .code key
  | none, none => .nothing

inductive MouseKind where
  | down
  | up
  | move
  | drag
deriving DecidableEq

inductive Event where
  | key (payload : KeyPayload) (down : Bool)
  | mouse (kind : MouseKind) (point : Point) (button : Button) (clickIndex : Option Int)
  | scroll (amount : ScrollAmount) (point : Option Point)
deriving DecidableEq

def MouseKind.name : MouseKind → String
  | down => "down"
  | up => "up"
  | move => "move"
  | drag => "drag"

def MouseKind.ofName? (name : String) : Option MouseKind :=
  [MouseKind.down, .up, .move, .drag].find? (·.name == name)

/-- A scroll amount as it is written: the standard one without a fraction. -/
def ScrollAmount.text : ScrollAmount → String
  | standard => toString standardScroll
  | exactly delta => delta.text
  | undefined => Binary64.nan.text

/-! Events as messages show them. -/

def Point.shown (p : Point) : String := s!"Point(x={p.x.text}, y={p.y.text})"

def Button.shown (b : Button) : String := s!"<MouseButton.{b.name.toUpper}: '{b.name}'>"

def MouseKind.shown (kind : MouseKind) : String :=
  s!"<MouseEventKind.{kind.name.toUpper}: '{kind.name}'>"

namespace Event

def device : Event → String
  | key .. => "key"
  | mouse .. => "mouse"
  | scroll .. => "scroll"

def code? : Event → Option KeyCode
  | key (.code pressed) _ => some pressed
  | _ => none

def down? : Event → Option Bool
  | key _ down => some down
  | _ => none

def text? : Event → Option String
  | key (.text t) _ => some t
  | _ => none

def kind? : Event → Option MouseKind
  | mouse kind .. => some kind
  | _ => none

def point? : Event → Option Point
  | mouse _ point .. => some point
  | scroll _ point => point
  | _ => none

def button? : Event → Option Button
  | mouse _ _ button _ => some button
  | _ => none

def clickIndex? : Event → Option Int
  | mouse _ _ _ index => index
  | _ => none

def amount? : Event → Option ScrollAmount
  | scroll amount _ => some amount
  | _ => none

def fieldShown {α : Type} (name : String) (shown : α → String) : Option α → String
  | some a => s!"{name}={shown a}"
  | none => s!"{name}=None"

def shown (e : Event) : String :=
  let fields := [
    s!"device='{e.device}'",
    fieldShown "code" KeyCode.shown e.code?,
    fieldShown "down" (fun d => if d then "True" else "False") e.down?,
    fieldShown "text" quoted e.text?,
    fieldShown "kind" MouseKind.shown e.kind?,
    fieldShown "point" Point.shown e.point?,
    fieldShown "button" Button.shown e.button?,
    fieldShown "click_index" toString e.clickIndex?,
    fieldShown "delta" ScrollAmount.text e.amount?]
  "PostedEvent(" ++ ", ".intercalate fields ++ ")"

end Event

end InputReplay
