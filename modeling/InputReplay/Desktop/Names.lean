import InputReplay.Key.Code
import InputReplay.Text.LowerCase

/-! The names that desktop toolkits give to keys. The screen toolkit has a name for every key. The
keyboard device knows some keys by name, others by the character they type, and a few not at all. -/

namespace InputReplay
namespace KeyCode

def functionNumber? : KeyCode → Option Nat
  | f1 => some 1 | f2 => some 2 | f3 => some 3 | f4 => some 4 | f5 => some 5
  | f6 => some 6 | f7 => some 7 | f8 => some 8 | f9 => some 9 | f10 => some 10
  | f11 => some 11 | f12 => some 12 | f13 => some 13 | f14 => some 14 | f15 => some 15
  | f16 => some 16 | f17 => some 17 | f18 => some 18 | f19 => some 19 | f20 => some 20
  | _ => none

def keypadDigit? : KeyCode → Option Nat
  | keypad0 => some 0 | keypad1 => some 1 | keypad2 => some 2 | keypad3 => some 3
  | keypad4 => some 4 | keypad5 => some 5 | keypad6 => some 6 | keypad7 => some 7
  | keypad8 => some 8 | keypad9 => some 9
  | _ => none

/-- The screen toolkit's names of keys that type nothing and have no number. -/
def screenSpecial? : KeyCode → Option String
  | leftArrow => some "left"
  | rightArrow => some "right"
  | upArrow => some "up"
  | downArrow => some "down"
  | home => some "home"
  | endKey => some "end"
  | pageUp => some "pageup"
  | pageDown => some "pagedown"
  | delete => some "backspace"
  | forwardDelete => some "delete"
  | returnKey => some "return"
  | tab => some "tab"
  | space => some "space"
  | escape => some "esc"
  | help => some "help"
  | keypadDecimal => some "decimal"
  | keypadMultiply => some "multiply"
  | keypadPlus => some "add"
  | keypadClear => some "clear"
  | keypadDivide => some "divide"
  | keypadEnter => some "enter"
  | keypadMinus => some "subtract"
  | keypadEquals => some "="
  | shiftLeft => some "shiftleft"
  | shiftRight => some "shiftright"
  | controlLeft => some "ctrlleft"
  | controlRight => some "ctrlright"
  | optionLeft => some "optionleft"
  | optionRight => some "optionright"
  | commandLeft | commandRight => some "command"
  | capsLock => some "capslock"
  | fn => some "fn"
  | _ => none

def screenName (key : KeyCode) : String :=
  match key.screenSpecial?, key.functionNumber?, key.keypadDigit? with
  | some name, _, _ => name
  | none, some nth, _ => s!"f{nth}"
  | none, none, some digit => s!"num{digit}"
  | none, none, none => lowerCase key.name

def deviceName? : KeyCode → Option String
  | leftArrow => some "left"
  | rightArrow => some "right"
  | upArrow => some "up"
  | downArrow => some "down"
  | home => some "home"
  | endKey => some "end"
  | pageUp => some "page_up"
  | pageDown => some "page_down"
  | delete => some "backspace"
  | forwardDelete => some "delete"
  | returnKey | keypadEnter => some "enter"
  | tab => some "tab"
  | space => some "space"
  | escape => some "esc"
  | shiftLeft => some "shift"
  | shiftRight => some "shift_r"
  | controlLeft => some "ctrl"
  | controlRight => some "ctrl_r"
  | optionLeft => some "alt"
  | optionRight => some "alt_r"
  | commandLeft => some "cmd"
  | commandRight => some "cmd_r"
  | capsLock => some "caps_lock"
  | _ => none

def keypadChar? (key : KeyCode) : Option String :=
  match key with
  | keypadDecimal => some "."
  | keypadMultiply => some "*"
  | keypadPlus => some "+"
  | keypadDivide => some "/"
  | keypadMinus => some "-"
  | keypadEquals => some "="
  | _ => key.keypadDigit?.map toString

end KeyCode

/-- What the keyboard device is told: the name of a key, or a text to type. -/
inductive DeviceKey where
  | named (name : String)
  | text (text : String)
deriving DecidableEq

/-- What the keyboard device is told for a key, if it can be told. -/
def KeyCode.deviceKey? (key : KeyCode) : Option DeviceKey :=
  match key.deviceName?, key.keypadChar?, key.functionNumber? with
  | some name, _, _ => some (.named name)
  | none, some char, _ => some (.text char)
  | none, none, some nth => some (.named s!"f{nth}")
  | none, none, none => if key.isTyping then some (.text (lowerCase key.name)) else none

end InputReplay
