import InputReplay.Key.Names
import InputReplay.Observe.Recorder

/-! What listeners tell, and the observed events it becomes. A key has a name or a character; a key or
a button that is not known is passed over. -/

namespace InputReplay

/-- A key as a listener tells it. -/
structure HeardKey where
  name : Option String
  text : Option String

namespace KeyCode

/-- The names that listeners give to keys without a character. -/
def heardNames : List (String × KeyCode) := [
  ("shift", .shiftLeft), ("shift_l", .shiftLeft), ("shift_r", .shiftRight),
  ("ctrl", .controlLeft), ("ctrl_l", .controlLeft), ("ctrl_r", .controlRight),
  ("alt", .optionLeft), ("alt_l", .optionLeft), ("alt_r", .optionRight), ("alt_gr", .optionRight),
  ("cmd", .commandLeft), ("cmd_l", .commandLeft), ("cmd_r", .commandRight),
  ("caps_lock", .capsLock), ("enter", .returnKey), ("tab", .tab), ("space", .space),
  ("backspace", .delete), ("delete", .forwardDelete), ("esc", .escape),
  ("up", .upArrow), ("down", .downArrow), ("left", .leftArrow), ("right", .rightArrow),
  ("home", .home), ("end", .endKey), ("page_up", .pageUp), ("page_down", .pageDown),
  ("f1", .f1), ("f2", .f2), ("f3", .f3), ("f4", .f4), ("f5", .f5), ("f6", .f6), ("f7", .f7),
  ("f8", .f8), ("f9", .f9), ("f10", .f10), ("f11", .f11), ("f12", .f12), ("f13", .f13),
  ("f14", .f14), ("f15", .f15), ("f16", .f16), ("f17", .f17), ("f18", .f18), ("f19", .f19),
  ("f20", .f20)]

/-- The key that was heard. A name counts before a character. -/
def ofHeard? (heard : HeardKey) : Option KeyCode :=
  match heard.name, heard.text with
  | some name, _ => heardNames.lookup name
  | none, some text => if text = "" then none else lookup? text
  | none, none => none

end KeyCode

inductive Heard where
  | key (key : HeardKey) (down : Bool)
  | move (point : Point)
  | click (point : Point) (button : String) (down : Bool)
  | scroll (amount : Binary64)

/-- The observed event of what was heard, if there is one. -/
def Heard.event? : Heard → Except NotFinite (Option ObservedEvent)
  | key heard down => .ok ((KeyCode.ofHeard? heard).map fun code => .ofKey code down)
  | move point => some <$> ObservedEvent.ofMove point
  | click point button down =>
    match Button.ofName? button with
    | some b => some <$> ObservedEvent.ofButton b down point
    | none => .ok none
  | scroll amount => do
    return some (.scroll (← amount.truncate))

end InputReplay
