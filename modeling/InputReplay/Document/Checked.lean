import InputReplay.Document.Value
import InputReplay.Number.Word
import InputReplay.Text.Fields
import InputReplay.Text.Utf8

/-! Fields of a document, checked. A check gives a value or every issue it found, each with the path
of the field it concerns; checks of several fields report the issues of all of them, in order.
Scalars are read leniently: a number may be written as text, and a flag as a number. -/

namespace InputReplay

/-- What a field should be and is not. -/
inductive Complaint where
  | missing | notMapping | notChoice | notText | notUnicode
  | notNumber | numberWord
  | notInteger | fraction | infinite | oversized | integerWord
  | notFlag | flagWord
  | belowLeast | notAbove
deriving DecidableEq

structure Issue where
  path : List String
  complaint : Complaint
deriving DecidableEq

inductive Checked (α : Type) where
  | sound (value : α)
  | faulty (issues : List Issue)

namespace Checked

variable {α β : Type}

def complain (c : Complaint) : Checked α := faulty [⟨[], c⟩]

/-- Applies a checked function to a checked value; the issues of both are kept. -/
def apply : Checked (α → β) → Checked α → Checked β
  | sound f, sound a => sound (f a)
  | sound _, faulty issues => faulty issues
  | faulty issues, sound _ => faulty issues
  | faulty issues, faulty more => faulty (issues ++ more)

instance : Applicative Checked where
  pure := sound
  seq f x := apply f (x ())

/-- Checks a value that was found sound once more. -/
def andThen (f : α → Checked β) : Checked α → Checked β
  | sound a => f a
  | faulty issues => faulty issues

/-- Puts a step before the path of every issue. -/
def under (step : String) : Checked α → Checked α
  | sound a => sound a
  | faulty issues => faulty (issues.map fun i => ⟨step :: i.path, i.complaint⟩)

def ofOption (c : Complaint) : Option α → Checked α
  | some a => sound a
  | none => complain c

end Checked

namespace Value

/-- The field under a key, or a value for when it is missing. -/
def field {α : Type} (v : Value) (key : String) (read : Value → Checked α) (default : α) :
    Checked α :=
  match v.get? key with
  | some x => (read x).under key
  | none => .sound default

/-- The field under a key that must be there. -/
def required {α : Type} (v : Value) (key : String) (read : Value → Checked α) : Checked α :=
  match v.get? key with
  | some x => (read x).under key
  | none => (Checked.complain .missing).under key

/-- Whether a blank may stand around a number written as text. -/
def isPadding (c : Char) : Bool := isBlank c && !(decide (28 ≤ c.toNat) && decide (c.toNat ≤ 31))

def trimmed (text : List Char) : List Char := dropEnd isPadding (text.dropWhile isPadding)

/-- Takes single underscores out from between characters. -/
def joinGroups? (text : List Char) : Option (List Char) :=
  let groups := fields '_' text
  if groups.any (·.isEmpty) then none else some groups.flatten

def decoded? (content : List UInt8) : Option (List Char) := (Utf8.decode content).toOption

/-- A number in words: blanks may stand around it, or underscores group its characters. -/
def numberOfText (word : List Char) : Checked Binary64 :=
  .ofOption .numberWord <| match NumberWord.read? (trimmed word) with
    | some x => some x
    | none => (joinGroups? word).bind NumberWord.read?

def asNumber : Value → Checked Binary64
  | real x => .sound x
  | undefined => .sound .nan
  | int n => if (Binary64.ofInt n).isFinite then .sound (.ofInt n) else .complain .notNumber
  | bool b => .sound (.ofNat b.toNat)
  | text s => numberOfText s.toList
  | broken _ => .complain .notUnicode
  | bytes content => (Checked.ofOption .numberWord (decoded? content)).andThen numberOfText
  | _ => .complain .notNumber

/-- Takes needless zeros, which underscores may group, off the start of digits. A minus may come after
them. -/
def dropZeros? : List Char → Option (List Char)
  | '0' :: rest => afterZeros '0' rest
  | c :: rest => if c.isDigit then some (c :: rest) else none
  | [] => none
where
  afterZeros (before : Char) : List Char → Option (List Char)
    | [] => some [before]
    | c :: rest =>
      if c = '0' ∨ c = '_' then afterZeros c rest
      else if c = '-' ∨ c.isDigit then some (c :: rest)
      else if c = '.' then some (before :: c :: rest)
      else none

/-- Takes zeros after a point, of which there must be one, off the end. -/
def dropFraction (text : List Char) : List Char :=
  match splitFirst? '.' text with
  | some (whole, zeros) => if zeros ≠ [] ∧ zeros.all (· = '0') then whole else text
  | none => text

/-- An integer in words: a sign may stand before it, zeros may follow a point, and underscores may
group its digits. -/
def integerOfText (word : List Char) : Checked Int :=
  let word := trimmed word
  let body := match word with
    | '+' :: rest => dropZeros? rest
    | '-' :: rest => (dropZeros? rest).map ('-' :: ·)
    | _ => dropZeros? word
  match body.map dropFraction with
  | none => .complain .integerWord
  | some rest =>
    let signed := (joinGroups? rest).getD rest
    let digits := if signed.head? = some '-' then signed.drop 1 else signed
    let run := digits.takeWhile Char.isDigit
    if numeralLimit < run.length then .complain .oversized
    else if run = [] ∨ run.length < digits.length ∨ (run.head? = some '0' ∧ 1 < run.length) then
      .complain .integerWord
    else .sound (if digits.length < signed.length then -(numeral digits : Int) else numeral digits)

/-- Whole numbers that are written with a fraction are read within 64 bits. -/
def integerOfReal (x : Binary64) : Checked Int :=
  match x.truncate with
  | .error _ => .complain .infinite
  | .ok n =>
    if ¬ x.isIntegral then .complain .fraction
    else if n.natAbs < pow2 63 then .sound n
    else .complain .oversized

def asInteger : Value → Checked Int
  | int n => .sound n
  | bool b => .sound b.toNat
  | real x => integerOfReal x
  | undefined => integerOfReal .nan
  | text s => integerOfText s.toList
  | broken _ => .complain .notUnicode
  | bytes content => (Checked.ofOption .integerWord (decoded? content)).andThen integerOfText
  | _ => .complain .notInteger

def flagWords : List (String × Bool) := [
  ("1", true), ("true", true), ("t", true), ("yes", true), ("y", true), ("on", true),
  ("0", false), ("false", false), ("f", false), ("no", false), ("n", false), ("off", false)]

def flagOfInteger (n : Int) : Checked Bool :=
  if n = 0 then .sound false else if n = 1 then .sound true else .complain .flagWord

def flagOfText (word : List Char) : Checked Bool :=
  .ofOption .flagWord (flagWords.lookup (String.ofList (word.map Char.toLower)))

def asFlag : Value → Checked Bool
  | bool b => .sound b
  | int n =>
    if -0x8000000000000000 ≤ n ∧ n < 0x8000000000000000 then flagOfInteger n else .complain .notFlag
  | real x =>
    match integerOfReal x with
    | .sound n => flagOfInteger n
    | .faulty _ => .complain .notFlag
  | text s => flagOfText s.toList
  | broken _ => .complain .notUnicode
  | bytes content => (Checked.ofOption .flagWord (decoded? content)).andThen flagOfText
  | _ => .complain .notFlag

def asText : Value → Checked String
  | text s => .sound s
  | broken codes => .sound (Wording.broken codes).text
  | bytes content => .ofOption .notUnicode ((decoded? content).map String.ofList)
  | _ => .complain .notText

def asChoice {α : Type} (choices : List (String × α)) : Value → Checked α
  | text s => .ofOption .notChoice (choices.lookup s)
  | broken _ => .complain .notUnicode
  | _ => .complain .notChoice

end Value

end InputReplay
