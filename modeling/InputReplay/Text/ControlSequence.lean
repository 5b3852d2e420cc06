/-! Control sequences of terminals. They begin with an escape and a bracket; parameters, intermediate
characters and one final character follow. A sequence without its final character is none. -/

namespace InputReplay
namespace ControlSequence

def isParameter (c : Char) : Bool := '0' ≤ c && c ≤ '?'

def isIntermediate (c : Char) : Bool := ' ' ≤ c && c ≤ '/'

def isFinal (c : Char) : Bool := '@' ≤ c && c ≤ '~'

/-- How many characters follow the first of a sequence, if a text begins with one. -/
def length? : List Char → Option Nat
  | '\x1b' :: '[' :: rest =>
    let parameters := rest.takeWhile isParameter
    let after := rest.drop parameters.length
    let intermediates := after.takeWhile isIntermediate
    match after.drop intermediates.length with
    | c :: _ => if isFinal c then some (2 + parameters.length + intermediates.length) else none
    | [] => none
  | _ => none

/-- A text without the control sequences in it, after some characters that do not count. -/
def removeAfter : Nat → List Char → List Char
  | _, [] => []
  | n + 1, _ :: rest => removeAfter n rest
  | 0, c :: rest =>
    match length? (c :: rest) with
    | some n => removeAfter n rest
    | none => c :: removeAfter 0 rest

/-- A text as it is told where control sequences are not understood. -/
def remove (text : String) : String := String.ofList (removeAfter 0 text.toList)

end ControlSequence
end InputReplay
