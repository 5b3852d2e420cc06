import InputReplay.Text.Fields

/-! Lines of a text. A line ends at a line feed, a carriage return, or the two together, and at
nothing else; the last line need not be ended. -/

namespace InputReplay

/-- Turns every line end into a line feed. `afterReturn` tells that the character before was a
carriage return, whose line feed has been written already. -/
def plainEnds (afterReturn : Bool) : List Char → List Char
  | [] => []
  | c :: rest =>
    if c = '\r' then '\n' :: plainEnds true rest
    else if c = '\n' ∧ afterReturn = true then plainEnds false rest
    else c :: plainEnds false rest

/-- The lines of a text, without their ends. -/
def lines (text : List Char) : List (List Char) :=
  let all := fields '\n' (plainEnds false text)
  if all.getLast? = some [] then all.dropLast else all

end InputReplay
