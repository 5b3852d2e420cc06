import InputReplay.Number.Word
import InputReplay.Time.Date

/-! What can be wrong with a YAML text. Flaws of its form have no message of their own; flaws of a
value that is written in it tell what is wrong with the value. -/

namespace InputReplay
namespace Yaml

inductive Flaw where
  /-- A character that may not stand in a text. -/
  | badCharacter
  /-- A mark out of place, or one that is not ended. -/
  | badMark
  /-- Tokens that form no value. -/
  | badForm
  /-- A name that stands for nothing or for two things, or a second document. -/
  | badReference
  /-- A node that its tag does not fit. -/
  | badValue
  /-- The number of a character that there is not. -/
  | noCharacter (number : Nat)
  | integer (fault : IntegerFault)
  | notNumber (word : String)
  | hugeNumber
  | emptyNumber
  | notTruth (word : String)
  | notDate
  /-- A mapping in the place of a date. -/
  | mappedDate
  /-- A value that is said to be itself. -/
  | endless
  | date (fault : DateFault)
deriving DecidableEq

namespace Flaw

/-- Whether a character's number is beyond the numbers that characters are counted with. -/
def isBeyondCounting (number : Nat) : Bool := decide (0x7fffffff < number)

def message : Flaw → String
  | badCharacter | badMark | badForm | badReference | badValue => ""
  | noCharacter number =>
    if isBeyondCounting number then "Python int too large to convert to C int"
    else "chr() arg not in range(0x110000)"
  | integer fault => fault.message
  | notNumber word => s!"could not convert string to float: {quoted word}"
  | hugeNumber => "int too large to convert to float"
  | emptyNumber => "string index out of range"
  | notTruth word => quoted word
  | notDate => "'NoneType' object has no attribute 'groupdict'"
  | mappedDate => "expected string or bytes-like object, got 'list'"
  | endless => "maximum recursion depth exceeded"
  | date fault => fault.message

end Flaw

end Yaml
end InputReplay
