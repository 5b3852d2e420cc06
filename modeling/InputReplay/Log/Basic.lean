import InputReplay.Text.Blank
import InputReplay.Text.Lines
import InputReplay.Text.Utf8

/-! Recorded logs: commands, each with the time it was recorded at if that is known. The written form
has a heading and one line for each entry, the time before the first comma. A text without the
heading is a list of commands. Blank lines do not count, nor does a line under the heading that has no
comma. -/

namespace InputReplay

structure LogEntry where
  time : Option String
  command : String
deriving DecidableEq

abbrev RecordedLog := List LogEntry

namespace RecordedLog

def heading : String := "Timestamp,Command"

def ofCommands (commands : List String) : RecordedLog := commands.map fun c => ⟨none, c⟩

def commands (log : RecordedLog) : List String := log.map (·.command)

def isBlankLine (line : List Char) : Bool := line.all isBlank

def timedEntry? (line : List Char) : Option LogEntry := do
  guard (!isBlankLine line)
  let (time, command) ← splitFirst? ',' line
  return ⟨some (String.ofList time), String.ofList command⟩

def plainEntry? (line : List Char) : Option LogEntry :=
  if isBlankLine line then none else some ⟨none, String.ofList line⟩

def ofLines : List (List Char) → RecordedLog
  | [] => []
  | first :: rest =>
    if strip first = heading.toList then rest.filterMap timedEntry?
    else (first :: rest).filterMap plainEntry?

def ofText (text : List Char) : RecordedLog := ofLines (lines text)

def ofBytes (bytes : List UInt8) : Except Utf8.Fault RecordedLog := do
  return ofText (← Utf8.decode bytes)

/-- The line of an entry; a time that is not known is left out. -/
def line (e : LogEntry) : String := e.time.getD "" ++ "," ++ e.command ++ "\n"

def text (log : RecordedLog) : String := heading ++ "\n" ++ String.join (log.map line)

end RecordedLog
end InputReplay
