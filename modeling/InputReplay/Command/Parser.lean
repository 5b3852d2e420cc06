import InputReplay.Command.Action
import InputReplay.Command.Error
import InputReplay.Key.Names
import InputReplay.Number.Decimal
import InputReplay.Text.Blank
import InputReplay.Text.Fields

/-! Reading a command. A command is one line `tag:argument`; the first colon ends the tag, and the
tag decides how the argument is read. Line ends after the command do not count. -/

namespace InputReplay

/-- The words a command may begin with. -/
inductive Tag where
  | keyDown | keyUp | press | type | click | doubleClick | rightClick | multiClick | scroll | move
  | scrollTo | holdClick | drag | shortcut | autocomplete | batch | touchpad | window
deriving DecidableEq

namespace Tag

def text : Tag → String
  | keyDown => "key-down"
  | keyUp => "key-up"
  | press => "press"
  | type => "type"
  | click => "click"
  | doubleClick => "double-click"
  | rightClick => "right-click"
  | multiClick => "Multi-click"
  | scroll => "scroll"
  | move => "move"
  | scrollTo => "scroll-to"
  | holdClick => "hold-click"
  | drag => "drag"
  | shortcut => "shortcut"
  | autocomplete => "autocomplete-text"
  | batch => "batch"
  | touchpad => "touchpad"
  | window => "special_gesture_mac"

def all : List Tag :=
  [keyDown, keyUp, press, type, click, doubleClick, rightClick, multiClick, scroll, move, scrollTo,
    holdClick, drag, shortcut, autocomplete, batch, touchpad, window]

def ofText? (text : String) : Option Tag := all.find? (·.text == text)

end Tag

abbrev Reading := Except ReadFault

namespace Reading

def reject {α : Type} (error : CommandError) : Reading α := .error (.rejected error)

def ofOption {α : Type} (error : CommandError) : Option α → Reading α
  | some a => .ok a
  | none => reject error

end Reading

def KeyCode.resolve (name : String) (tag : Option String) : Except CommandError KeyCode :=
  match lookup? name with
  | some key => .ok key
  | none => .error (.unknownKey tag name)

namespace Tag

variable (tag : Tag)

def fieldError (field : String) (error : FieldError) : CommandError :=
  .argument tag.text field error

def readKey (token : List Char) : Reading KeyCode :=
  (KeyCode.resolve (String.ofList token) (some tag.text)).mapError .rejected

/-- A finite number. -/
def readNumber (isCoordinate : Bool) (field : String) (text : List Char) : Reading Binary64 :=
  match Decimal.read? text with
  | none => .reject (tag.fieldError field (.notNumber isCoordinate (String.ofList text)))
  | some d =>
    if d.toBinary64.isFinite then .ok d.toBinary64
    else .reject (tag.fieldError field (.notFinite isCoordinate (String.ofList text)))

def readCount (field : String) (text : List Char) : Reading Int :=
  match readInteger? text with
  | none => .reject (tag.fieldError field (.notInteger (String.ofList text)))
  | some n =>
    if numeralLimit < (takeSign text).2.length then .error (.tooLong ⟨(takeSign text).2.length⟩)
    else if n < 1 then .reject (tag.fieldError field (.notPositive n))
    else .ok n

/-- The name of the field at a position, of which the first have names of their own. -/
def fieldName (names : List String) (i : Nat) : String :=
  match names[i]? with
  | some name => name
  | none => s!"field {i + 1}"

/-- Every field as a coordinate, from the position `i` on. -/
def readCoordinates (names : List String) (i : Nat) : List (List Char) → Reading (List Binary64)
  | [] => .ok []
  | field :: more => do
    let value ← tag.readNumber true (fieldName names i) field
    let values ← readCoordinates names (i + 1) more
    return value :: values

/-- A point. Every field is read as a number before the fields are counted, so that what is not a
number is reported first. -/
def readPoint (argument : List Char) : Reading Point := do
  match ← tag.readCoordinates ["x", "y"] 0 (fields ',' argument) with
  | [x, y] => return ⟨x, y⟩
  | values => .reject (tag.fieldError "x,y" (.coordinateCount 2 values.length))

/-- Two points, their fields read before they are counted. -/
def readDrag (argument : List Char) : Reading Action := do
  match ← tag.readCoordinates ["x1", "y1", "x2", "y2"] 0 (fields ',' argument) with
  | [x₁, y₁, x₂, y₂] => return .drag ⟨x₁, y₁⟩ ⟨x₂, y₂⟩
  | values => .reject (tag.fieldError "x1,y1,x2,y2" (.coordinateCount 4 values.length))

def readXY (x y : List Char) : Reading Point := do
  let x ← tag.readNumber true "x" x
  let y ← tag.readNumber true "y" y
  return ⟨x, y⟩

def readMultiClick (argument : List Char) : Reading Action :=
  match fields ',' argument with
  | [x, y, count] => do
    let point ← tag.readXY x y
    let count ← tag.readCount "count" count
    return .click point .left count
  | other => .reject (tag.fieldError "x,y,count" (.fieldCount 3 other.length))

/-- The two fields before the second comma and all that follows it, which must not be empty. -/
def holdFields? (argument : List Char) : Option (List Char × List Char × List Char) := do
  let (x, rest) ← splitFirst? ',' argument
  let (y, name) ← splitFirst? ',' rest
  guard (name ≠ [])
  return (x, y, name)

def readHoldClick (argument : List Char) : Reading Action := do
  let (x, y, name) ← Reading.ofOption
    (tag.fieldError "x,y,keyName" (.fieldsWanted 3 (String.ofList argument))) (holdFields? argument)
  let point ← tag.readXY x y
  let key ← tag.readKey name
  return .holdClick point key 1

def readShortcut (argument : List Char) : Reading Action := do
  let codes ← (fields '+' argument).mapM tag.readKey
  return .shortcut codes

def readAutocomplete (argument : List Char) : Reading Action :=
  match splitFirst? ',' argument with
  | some (typed, full) => .ok (.autocomplete (String.ofList typed) (String.ofList full))
  | none => .reject (tag.fieldError "prefix,fullText" .noComma)

def readBatch (argument : List Char) : Reading Action :=
  let commands := ((fields ';' argument).filter (· ≠ [])).map String.ofList
  if commands = [] then .reject (tag.fieldError "commands" .noCommands) else .ok (.batch commands)

def readGesture (touchpad : Bool) (argument : List Char) : Reading Action :=
  match Gesture.ofName? (String.ofList argument) with
  | some kind =>
    if kind.isTouchpad = touchpad then .ok (.gesture kind)
    else .reject (.unknownGesture tag.text (String.ofList argument))
  | none => .reject (.unknownGesture tag.text (String.ofList argument))

def readArgument (argument : List Char) : Reading Action :=
  match tag with
  | keyDown => return .key (← tag.readKey argument) true
  | keyUp => return .key (← tag.readKey argument) false
  | press => return .press (← tag.readKey argument)
  | type => return .type (String.ofList argument)
  | click => return .click (← tag.readPoint argument) .left 1
  | doubleClick => return .click (← tag.readPoint argument) .left 2
  | rightClick => return .click (← tag.readPoint argument) .right 1
  | multiClick => tag.readMultiClick argument
  | scroll => return .scroll (← tag.readNumber false "delta" argument)
  | move => return .move (← tag.readPoint argument)
  | scrollTo => return .scrollTo (← tag.readPoint argument)
  | holdClick => tag.readHoldClick argument
  | drag => tag.readDrag argument
  | shortcut => tag.readShortcut argument
  | autocomplete => tag.readAutocomplete argument
  | batch => tag.readBatch argument
  | touchpad => tag.readGesture true argument
  | window => tag.readGesture false argument

end Tag

namespace Command

/-- The tag of a command and its argument. -/
def split (raw : List Char) : Except CommandError (List Char × List Char) :=
  match splitFirst? ':' raw with
  | some parts => .ok parts
  | none => .error (.malformed (String.ofList raw))

def isLineEnd (c : Char) : Bool := c == '\r' || c == '\n'

/-- Reads a command without line ends after it. -/
def parseLine (raw : List Char) : Reading Action := do
  let (word, argument) ← (split raw).mapError ReadFault.rejected
  let tag ← Reading.ofOption (.unknownAction (String.ofList word)) (Tag.ofText? (String.ofList word))
  if argument = [] then .reject (tag.fieldError "argument" .emptyArgument)
  else tag.readArgument argument

def parse (raw : String) : Reading Action := parseLine (dropEnd isLineEnd raw.toList)

/-- Reads every command of a batch. One that is rejected keeps its error in place of an action. -/
def expand : List String → Except NumeralTooLong (List (String × Except CommandError Action))
  | [] => .ok []
  | raw :: more => do
    let action ← match parse raw with
      | .ok action => .ok (.ok action)
      | .error (.rejected error) => .ok (.error error)
      | .error (.tooLong numeral) => .error numeral
    return (raw, action) :: (← expand more)

end Command

end InputReplay
