import InputReplay.Key.Code
import InputReplay.Text.LowerCase

/-! Names of keys. A table of names is built from entries whose names count without regard to case;
it cannot be built when one name would mean two keys. The table of key symbols holds every display
name and the other spellings accepted on input; modifiers whose side is not named are the left ones. -/

namespace InputReplay

/-- A table from names, in lower case, to keys. -/
abbrev KeyTable := List (String × KeyCode)

/-- A name that would mean two keys. -/
structure KeyCollision where
  name : String
  first : KeyCode
  second : KeyCode

def KeyCollision.message (c : KeyCollision) : String :=
  s!"Key name {quoted c.name} maps to both {c.first.label} and {c.second.label}"

namespace KeyTable

def insert (table : KeyTable) (name : String) (key : KeyCode) : Except KeyCollision KeyTable :=
  match table.lookup (lowerCase name) with
  | none => .ok ((lowerCase name, key) :: table)
  | some known => if known = key then .ok table else .error ⟨lowerCase name, known, key⟩

def build (entries : List (String × KeyCode)) : Except KeyCollision KeyTable :=
  entries.foldlM (fun table e => insert table e.1 e.2) []

end KeyTable

namespace KeyCode

/-- The spellings accepted beside the display names. -/
def aliases : List (String × KeyCode) := [
  ("enter", .returnKey), ("backspace", .delete), ("forwarddelete", .forwardDelete),
  ("del", .forwardDelete), ("esc", .escape), ("left", .leftArrow),
  ("right", .rightArrow), ("up", .upArrow), ("down", .downArrow),
  ("pageup", .pageUp), ("pagedown", .pageDown), ("capslock", .capsLock),
  ("function", .fn), ("minus", .minus), ("equal", .equal),
  ("comma", .comma), ("period", .period), ("slash", .slash),
  ("backslash", .backslash), ("semicolon", .semicolon), ("quote", .quote),
  ("grave", .grave), ("section", .sectionSign), ("shift", .shiftLeft),
  ("shiftleft", .shiftLeft), ("shiftright", .shiftRight), ("ctrl", .controlLeft),
  ("control", .controlLeft), ("ctrlleft", .controlLeft), ("ctrlright", .controlRight),
  ("option", .optionLeft), ("alt", .optionLeft), ("optionleft", .optionLeft),
  ("altleft", .optionLeft), ("optionright", .optionRight), ("altright", .optionRight),
  ("command", .commandLeft), ("cmd", .commandLeft), ("meta", .commandLeft),
  ("commandleft", .commandLeft), ("commandright", .commandRight), ("cmdright", .commandRight)]

def symbolEntries : List (String × KeyCode) := all.map (fun key => (key.name, key)) ++ aliases

def symbols : KeyTable :=
  match KeyTable.build symbolEntries with
  | .ok table => table
  | .error _ => []

/-- The key with a name, without regard to case. -/
def lookup? (name : String) : Option KeyCode := symbols.lookup (lowerCase name)

end KeyCode

end InputReplay
