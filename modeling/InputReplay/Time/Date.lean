import InputReplay.Text.Blank

/-! Dates as they are written in documents, alone or with a time of the day and the offset of a zone,
and what can be wrong with one. -/

namespace InputReplay

structure WrittenDate where
  year : Nat
  month : Nat
  day : Nat
  /-- The hour, the minute and the second. -/
  time : Option (Nat × Nat × Nat)
  /-- The hours and minutes of a zone, and whether it lies behind. -/
  zone : Option (Bool × Nat × Nat)
deriving DecidableEq

inductive DateFault where
  | zone (seconds : Int)
  | year
  | month
  | day
  | hour
  | minute
  | second
deriving DecidableEq

/-- A span of time as it is shown: whole days, and the seconds after them. -/
def spanShown (seconds : Int) : String :=
  let part (name : String) (n : Int) : List String := if n = 0 then [] else [s!"{name}={n}"]
  "datetime.timedelta(" ++
    ", ".intercalate (part "days" (seconds.fdiv 86400) ++ part "seconds" (seconds.fmod 86400)) ++ ")"

def DateFault.message : DateFault → String
  | zone seconds => "offset must be a timedelta strictly between -timedelta(hours=24) and " ++
      s!"timedelta(hours=24), not {spanShown seconds}."
  | year => "year 0 is out of range"
  | month => "month must be in 1..12"
  | day => "day is out of range for month"
  | hour => "hour must be in 0..23"
  | minute => "minute must be in 0..59"
  | second => "second must be in 0..59"

namespace WrittenDate

def isLeap (year : Nat) : Bool := year % 4 == 0 && (year % 100 != 0 || year % 400 == 0)

def daysIn (year month : Nat) : Nat :=
  if month = 2 then (if isLeap year then 29 else 28)
  else if month ∈ [4, 6, 9, 11] then 30
  else 31

/-- The offset of the zone in seconds. -/
def offset (d : WrittenDate) : Int :=
  match d.zone with
  | some (behind, hours, minutes) =>
    let seconds : Int := 3600 * hours + 60 * minutes
    if behind then -seconds else seconds
  | none => 0

def fault? (d : WrittenDate) : Option DateFault :=
  let (hour, minute, second) := d.time.getD (0, 0, 0)
  if 86400 ≤ d.offset.natAbs then some (.zone d.offset)
  else if d.year = 0 then some .year
  else if d.month = 0 ∨ 12 < d.month then some .month
  else if d.day = 0 ∨ daysIn d.year d.month < d.day then some .day
  else if 23 < hour then some .hour
  else if 59 < minute then some .minute
  else if 59 < second then some .second
  else none

/-! Reading. Every part takes as many digits as it can. -/

/-- Takes a number of at least `least` and at most `most` digits off a word. -/
def takeNumber? (least most : Nat) (word : List Char) : Option (Nat × List Char) :=
  let digits := (word.takeWhile Char.isDigit).take most
  if digits.length < least then none
  else some (digits.foldl (fun n c => 10 * n + (c.toNat - '0'.toNat)) 0, word.drop digits.length)

def takeMark? (mark : Char) : List Char → Option (List Char)
  | c :: rest => if c = mark then some rest else none
  | [] => none

def isSpace (c : Char) : Bool := c == ' ' || c == '\t'

/-- What may stand after the seconds: nothing, or a zone. -/
def readZone? (word : List Char) : Option (Option (Bool × Nat × Nat)) := do
  match word.dropWhile isSpace with
  | [] => if word = [] then some none else none
  | ['Z'] => some none
  | sign :: rest =>
    guard (sign = '+' ∨ sign = '-')
    let (hours, rest) ← takeNumber? 1 2 rest
    if rest = [] then return some (sign == '-', hours, 0)
    let (minutes, rest) ← takeNumber? 2 2 (← takeMark? ':' rest)
    guard (rest = [])
    return some (sign == '-', hours, minutes)

/-- Takes the time of a day off; digits after a point do not count. -/
def takeTime? (word : List Char) : Option ((Nat × Nat × Nat) × List Char) := do
  let (hour, rest) ← takeNumber? 1 2 word
  let (minute, rest) ← takeNumber? 2 2 (← takeMark? ':' rest)
  let (second, rest) ← takeNumber? 2 2 (← takeMark? ':' rest)
  let rest := match rest with
    | '.' :: fraction => fraction.dropWhile Char.isDigit
    | _ => rest
  return ((hour, minute, second), rest)

/-- Takes what stands between a date and a time off: a letter or blanks. -/
def takeGap? : List Char → Option (List Char)
  | c :: rest =>
    if c = 'T' ∨ c = 't' then some rest
    else if isSpace c then some (rest.dropWhile isSpace)
    else none
  | [] => none

/-- The date that a word is. Months and days have one digit at least. -/
def read? (word : List Char) : Option WrittenDate := do
  let (year, rest) ← takeNumber? 4 4 word
  let (month, rest) ← takeNumber? 1 2 (← takeMark? '-' rest)
  let (day, rest) ← takeNumber? 1 2 (← takeMark? '-' rest)
  if rest = [] then return ⟨year, month, day, none, none⟩
  let (time, rest) ← takeTime? (← takeGap? rest)
  return ⟨year, month, day, some time, ← readZone? rest⟩

end WrittenDate
end InputReplay
