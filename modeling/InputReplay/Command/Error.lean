import InputReplay.Number.Word

/-! What can be wrong with a command. -/

namespace InputReplay

/-- What is wrong with a field of an argument. A number may be a coordinate or another number. -/
inductive FieldError where
  | emptyArgument
  | fieldCount (expected got : Nat)
  | fieldsWanted (expected : Nat) (argument : String)
  | noComma
  | noCommands
  | coordinateCount (expected got : Nat)
  | notNumber (isCoordinate : Bool) (text : String)
  | notFinite (isCoordinate : Bool) (text : String)
  | notInteger (text : String)
  | notPositive (value : Int)
deriving DecidableEq

def FieldError.message : FieldError → String
  | emptyArgument => "empty argument"
  | fieldCount expected got => s!"expected {expected} fields, got {got}"
  | fieldsWanted expected argument => s!"expected {expected} fields in {quoted argument}"
  | noComma => "missing ',' between prefix and full text"
  | noCommands => "no sub-commands"
  | coordinateCount expected got => s!"expected {expected} fields, got {got}"
  | notNumber _ text => s!"not a number: {quoted text}"
  | notFinite _ text => s!"not a finite number: {quoted text}"
  | notInteger text => s!"not an integer: {quoted text}"
  | notPositive value => s!"must be a positive integer: {value}"

/-- Why a command cannot be read. -/
inductive CommandError where
  | malformed (raw : String)
  | unknownAction (tag : String)
  | unknownKey (tag : Option String) (token : String)
  | unknownGesture (tag value : String)
  | argument (tag field : String) (error : FieldError)
deriving DecidableEq

def CommandError.message : CommandError → String
  | malformed raw => s!"Invalid command format, expected 'action:argument': {quoted raw}"
  | unknownAction tag => s!"Unknown action: {quoted tag}"
  | unknownKey none token => s!"Unknown key: {quoted token}"
  | unknownKey (some tag) token =>
    if tag = "" then s!"Unknown key: {quoted token}"
    else s!"Unknown key in {quoted tag}: {quoted token}"
  | unknownGesture tag value => s!"Unknown gesture for {quoted tag}: {quoted value}"
  | argument tag field error => s!"{tag}: {field}: {error.message}"

/-- What ends the reading of a command. A numeral that is too long is no error of the command. -/
inductive ReadFault where
  | rejected (error : CommandError)
  | tooLong (numeral : NumeralTooLong)
deriving DecidableEq

end InputReplay
