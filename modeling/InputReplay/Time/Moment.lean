/-! Moments of the calendar, counted in microseconds from the start of 1970, and their texts. -/

namespace InputReplay

structure Moment where
  micros : Nat
deriving DecidableEq

namespace Moment

def microsPerSecond : Nat := 1000000

def ofDay (day : Nat) : Moment := ⟨day * 86400 * microsPerSecond⟩

def later (m : Moment) (micros : Nat) : Moment := ⟨m.micros + micros⟩

structure Date where
  year : Nat
  month : Nat
  day : Nat

/-- The date of a day. Years are counted from March, so that a leap day ends one, and in spans of four
centuries, which all have the same length. -/
def dateOf (day : Nat) : Date :=
  let days := day + 719468
  let span := days / 146097
  let inSpan := days % 146097
  let year := (inSpan - inSpan / 1460 + inSpan / 36524 - inSpan / 146096) / 365
  let inYear := inSpan - (365 * year + year / 4 - year / 100)
  let shifted := (5 * inYear + 2) / 153
  let month := if shifted < 10 then shifted + 3 else shifted - 9
  ⟨year + 400 * span + (if month ≤ 2 then 1 else 0), month, inYear - (153 * shifted + 2) / 5 + 1⟩

/-- A number in decimal, padded with zeros to a width. -/
def padded (width n : Nat) : String :=
  let digits := Nat.toDigits 10 n
  String.ofList (List.replicate (width - digits.length) '0' ++ digits)

def seconds (m : Moment) : Nat := m.micros / microsPerSecond

def fraction (m : Moment) : Nat := m.micros % microsPerSecond

def dateText (m : Moment) : String :=
  let date := dateOf (m.seconds / 86400)
  s!"{padded 4 date.year}-{padded 2 date.month}-{padded 2 date.day}"

def clockText (m : Moment) : String :=
  let s := m.seconds % 86400
  s!"{padded 2 (s / 3600)}:{padded 2 (s / 60 % 60)}:{padded 2 (s % 60)}"

def fractionText (m : Moment) : String := s!".{padded 6 m.fraction}"

/-- The standard text of a moment; a whole second has no fraction. -/
def isoText (m : Moment) : String :=
  s!"{m.dateText}T{m.clockText}" ++ (if m.fraction = 0 then "" else m.fractionText) ++ "+00:00"

/-- The text of a moment in a log, always with its fraction. -/
def logText (m : Moment) : String := s!"{m.dateText} {m.clockText}{m.fractionText}"

end Moment

end InputReplay
