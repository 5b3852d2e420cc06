import InputReplay.Text.Quoted

/-! Keys of a keyboard. Every key has a number, a label for messages and a display name; names of one
character belong to the keys that type a character. -/

namespace InputReplay

inductive KeyCode where
  | a | s | d | f | h | g | z | x | c | v | sectionSign | b | q | w | e | r | y | t | digit1
  | digit2 | digit3 | digit4 | digit6 | digit5 | equal | digit9 | digit7 | minus | digit8
  | digit0 | rightBracket | o | u | leftBracket | i | p | returnKey | l | j | quote | k
  | semicolon | backslash | comma | slash | n | m | period | tab | space | grave | delete
  | escape | commandRight | commandLeft | shiftLeft | capsLock | optionLeft | controlLeft
  | shiftRight | optionRight | controlRight | fn | f17 | keypadDecimal | keypadMultiply
  | keypadPlus | keypadClear | keypadDivide | keypadEnter | keypadMinus | f18 | f19
  | keypadEquals | keypad0 | keypad1 | keypad2 | keypad3 | keypad4 | keypad5 | keypad6 | keypad7
  | f20 | keypad8 | keypad9 | f5 | f6 | f7 | f3 | f8 | f9 | f11 | f13 | f16 | f14 | f10 | f12
  | f15 | help | home | pageUp | forwardDelete | f4 | endKey | f2 | pageDown | f1 | leftArrow
  | rightArrow | downArrow | upArrow
deriving DecidableEq

structure KeyEntry where
  number : Nat
  label : String
  name : String

namespace KeyCode

def entry : KeyCode → KeyEntry
  | a => ⟨0, "A", "A"⟩
  | s => ⟨1, "S", "S"⟩
  | d => ⟨2, "D", "D"⟩
  | f => ⟨3, "F", "F"⟩
  | h => ⟨4, "H", "H"⟩
  | g => ⟨5, "G", "G"⟩
  | z => ⟨6, "Z", "Z"⟩
  | x => ⟨7, "X", "X"⟩
  | c => ⟨8, "C", "C"⟩
  | v => ⟨9, "V", "V"⟩
  | sectionSign => ⟨10, "SECTION", "§"⟩
  | b => ⟨11, "B", "B"⟩
  | q => ⟨12, "Q", "Q"⟩
  | w => ⟨13, "W", "W"⟩
  | e => ⟨14, "E", "E"⟩
  | r => ⟨15, "R", "R"⟩
  | y => ⟨16, "Y", "Y"⟩
  | t => ⟨17, "T", "T"⟩
  | digit1 => ⟨18, "DIGIT_1", "1"⟩
  | digit2 => ⟨19, "DIGIT_2", "2"⟩
  | digit3 => ⟨20, "DIGIT_3", "3"⟩
  | digit4 => ⟨21, "DIGIT_4", "4"⟩
  | digit6 => ⟨22, "DIGIT_6", "6"⟩
  | digit5 => ⟨23, "DIGIT_5", "5"⟩
  | equal => ⟨24, "EQUAL", "="⟩
  | digit9 => ⟨25, "DIGIT_9", "9"⟩
  | digit7 => ⟨26, "DIGIT_7", "7"⟩
  | minus => ⟨27, "MINUS", "-"⟩
  | digit8 => ⟨28, "DIGIT_8", "8"⟩
  | digit0 => ⟨29, "DIGIT_0", "0"⟩
  | rightBracket => ⟨30, "RIGHT_BRACKET", "]"⟩
  | o => ⟨31, "O", "O"⟩
  | u => ⟨32, "U", "U"⟩
  | leftBracket => ⟨33, "LEFT_BRACKET", "["⟩
  | i => ⟨34, "I", "I"⟩
  | p => ⟨35, "P", "P"⟩
  | returnKey => ⟨36, "RETURN", "Return"⟩
  | l => ⟨37, "L", "L"⟩
  | j => ⟨38, "J", "J"⟩
  | quote => ⟨39, "QUOTE", "'"⟩
  | k => ⟨40, "K", "K"⟩
  | semicolon => ⟨41, "SEMICOLON", ";"⟩
  | backslash => ⟨42, "BACKSLASH", "\\"⟩
  | comma => ⟨43, "COMMA", ","⟩
  | slash => ⟨44, "SLASH", "/"⟩
  | n => ⟨45, "N", "N"⟩
  | m => ⟨46, "M", "M"⟩
  | period => ⟨47, "PERIOD", "."⟩
  | tab => ⟨48, "TAB", "Tab"⟩
  | space => ⟨49, "SPACE", "Space"⟩
  | grave => ⟨50, "GRAVE", "`"⟩
  | delete => ⟨51, "DELETE", "Delete"⟩
  | escape => ⟨53, "ESCAPE", "Escape"⟩
  | commandRight => ⟨54, "COMMAND_RIGHT", "Command (Right)"⟩
  | commandLeft => ⟨55, "COMMAND_LEFT", "Command (Left)"⟩
  | shiftLeft => ⟨56, "SHIFT_LEFT", "Shift (Left)"⟩
  | capsLock => ⟨57, "CAPS_LOCK", "Caps Lock"⟩
  | optionLeft => ⟨58, "OPTION_LEFT", "Option (Left)"⟩
  | controlLeft => ⟨59, "CONTROL_LEFT", "Control (Left)"⟩
  | shiftRight => ⟨60, "SHIFT_RIGHT", "Shift (Right)"⟩
  | optionRight => ⟨61, "OPTION_RIGHT", "Option (Right)"⟩
  | controlRight => ⟨62, "CONTROL_RIGHT", "Control (Right)"⟩
  | fn => ⟨63, "FN", "Fn"⟩
  | f17 => ⟨64, "F17", "F17"⟩
  | keypadDecimal => ⟨65, "KEYPAD_DECIMAL", "Keypad Decimal"⟩
  | keypadMultiply => ⟨67, "KEYPAD_MULTIPLY", "Keypad Multiply"⟩
  | keypadPlus => ⟨69, "KEYPAD_PLUS", "Keypad Plus"⟩
  | keypadClear => ⟨71, "KEYPAD_CLEAR", "Keypad Clear"⟩
  | keypadDivide => ⟨75, "KEYPAD_DIVIDE", "Keypad Divide"⟩
  | keypadEnter => ⟨76, "KEYPAD_ENTER", "Keypad Enter"⟩
  | keypadMinus => ⟨78, "KEYPAD_MINUS", "Keypad Minus"⟩
  | f18 => ⟨79, "F18", "F18"⟩
  | f19 => ⟨80, "F19", "F19"⟩
  | keypadEquals => ⟨81, "KEYPAD_EQUALS", "Keypad Equals"⟩
  | keypad0 => ⟨82, "KEYPAD_0", "Keypad 0"⟩
  | keypad1 => ⟨83, "KEYPAD_1", "Keypad 1"⟩
  | keypad2 => ⟨84, "KEYPAD_2", "Keypad 2"⟩
  | keypad3 => ⟨85, "KEYPAD_3", "Keypad 3"⟩
  | keypad4 => ⟨86, "KEYPAD_4", "Keypad 4"⟩
  | keypad5 => ⟨87, "KEYPAD_5", "Keypad 5"⟩
  | keypad6 => ⟨88, "KEYPAD_6", "Keypad 6"⟩
  | keypad7 => ⟨89, "KEYPAD_7", "Keypad 7"⟩
  | f20 => ⟨90, "F20", "F20"⟩
  | keypad8 => ⟨91, "KEYPAD_8", "Keypad 8"⟩
  | keypad9 => ⟨92, "KEYPAD_9", "Keypad 9"⟩
  | f5 => ⟨96, "F5", "F5"⟩
  | f6 => ⟨97, "F6", "F6"⟩
  | f7 => ⟨98, "F7", "F7"⟩
  | f3 => ⟨99, "F3", "F3"⟩
  | f8 => ⟨100, "F8", "F8"⟩
  | f9 => ⟨101, "F9", "F9"⟩
  | f11 => ⟨103, "F11", "F11"⟩
  | f13 => ⟨105, "F13", "F13"⟩
  | f16 => ⟨106, "F16", "F16"⟩
  | f14 => ⟨107, "F14", "F14"⟩
  | f10 => ⟨109, "F10", "F10"⟩
  | f12 => ⟨111, "F12", "F12"⟩
  | f15 => ⟨113, "F15", "F15"⟩
  | help => ⟨114, "HELP", "Help"⟩
  | home => ⟨115, "HOME", "Home"⟩
  | pageUp => ⟨116, "PAGE_UP", "Page Up"⟩
  | forwardDelete => ⟨117, "FORWARD_DELETE", "Forward Delete"⟩
  | f4 => ⟨118, "F4", "F4"⟩
  | endKey => ⟨119, "END", "End"⟩
  | f2 => ⟨120, "F2", "F2"⟩
  | pageDown => ⟨121, "PAGE_DOWN", "Page Down"⟩
  | f1 => ⟨122, "F1", "F1"⟩
  | leftArrow => ⟨123, "LEFT_ARROW", "Left Arrow"⟩
  | rightArrow => ⟨124, "RIGHT_ARROW", "Right Arrow"⟩
  | downArrow => ⟨125, "DOWN_ARROW", "Down Arrow"⟩
  | upArrow => ⟨126, "UP_ARROW", "Up Arrow"⟩

/-- The position of a key in a Mac keyboard's numbering. -/
def number (key : KeyCode) : Nat := key.entry.number

def label (key : KeyCode) : String := key.entry.label

/-- The display name of a key, which is also its name in observed input. -/
def name (key : KeyCode) : String := key.entry.name

/-- Every key, by number. -/
def all : List KeyCode := [
  a, s, d, f, h, g, z, x, c, v, sectionSign, b, q, w, e, r, y, t, digit1, digit2, digit3, digit4,
  digit6, digit5, equal, digit9, digit7, minus, digit8, digit0, rightBracket, o, u, leftBracket,
  i, p, returnKey, l, j, quote, k, semicolon, backslash, comma, slash, n, m, period, tab, space,
  grave, delete, escape, commandRight, commandLeft, shiftLeft, capsLock, optionLeft, controlLeft,
  shiftRight, optionRight, controlRight, fn, f17, keypadDecimal, keypadMultiply, keypadPlus,
  keypadClear, keypadDivide, keypadEnter, keypadMinus, f18, f19, keypadEquals, keypad0, keypad1,
  keypad2, keypad3, keypad4, keypad5, keypad6, keypad7, f20, keypad8, keypad9, f5, f6, f7, f3,
  f8, f9, f11, f13, f16, f14, f10, f12, f15, help, home, pageUp, forwardDelete, f4, endKey, f2,
  pageDown, f1, leftArrow, rightArrow, downArrow, upArrow]

def ofNumber? (n : Int) : Option KeyCode := all.find? fun key => decide ((key.number : Int) = n)

def ofLabel? (label : String) : Option KeyCode := all.find? fun key => key.label == label

def isTyping (key : KeyCode) : Bool := key.name.length == 1

/-- Whether no key with a number types a character. -/
def isSpecialNumber (n : Int) : Bool := !(ofNumber? n).any isTyping

def isModifier : KeyCode → Bool
  | shiftLeft | shiftRight | controlLeft | controlRight | optionLeft | optionRight | commandLeft
  | commandRight | fn | capsLock => true
  | _ => false

def shown (key : KeyCode) : String := s!"<KeyCode.{key.label}: {key.number}>"

end KeyCode

end InputReplay
