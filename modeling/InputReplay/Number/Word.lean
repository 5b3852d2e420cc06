import InputReplay.Number.Decimal
import InputReplay.Text.Blank
import InputReplay.Text.DigitTable
import InputReplay.Text.Quoted

/-! Numbers as words: the digits may be those of any script, blanks may stand around them, and single
underscores between them. -/

namespace InputReplay

structure NumeralTooLong where
  digits : Nat
deriving DecidableEq

/-- The most digits an integer may have, leading zeros counted and the sign not. -/
def numeralLimit : Nat := 4300

def NumeralTooLong.message (n : NumeralTooLong) : String :=
  s!"Exceeds the limit ({numeralLimit} digits) for integer string conversion: value has {n.digits}" ++
    " digits; use sys.set_int_max_str_digits() to increase the limit"

namespace NumberWord

/-- Whether a blank may stand around a number. -/
def isPadding (c : Char) : Bool := c == ' ' || (decide (9 ≤ c.toNat) && decide (c.toNat ≤ 13))

/-- A character with its place taken by the ASCII character that means the same in a number. -/
def plainChar (c : Char) : Char :=
  if c.toNat < 128 then c
  else if isBlank c then ' '
  else match foreignDigit? c with
    | some d => Char.ofNat ('0'.toNat + d)
    | none => c

/-- A word in ASCII, without the blanks around it. -/
def plain (word : List Char) : List Char :=
  dropEnd isPadding ((word.map plainChar).dropWhile isPadding)

/-- Takes single underscores out from between digits. -/
def joinDigits? (isDigit : Char → Bool) (before : Char) : List Char → Option (List Char)
  | [] => some []
  | c :: rest =>
    if c = '_' then
      if isDigit before ∧ isDigit (rest.headD ' ') then joinDigits? isDigit c rest else none
    else (c :: ·) <$> joinDigits? isDigit c rest

/-- A number in ASCII: a decimal, or one of the words for what is none. -/
def read? (text : List Char) : Option Binary64 :=
  match Decimal.read? text with
  | some d => some d.toBinary64
  | none =>
    let (negative, word) := takeSign text
    let word := word.map Char.toLower
    if word = "nan".toList then some .nan
    else if word = "inf".toList ∨ word = "infinity".toList then some (.infinite negative)
    else none

def number? (word : List Char) : Option Binary64 := (joinDigits? Char.isDigit ' ' (plain word)).bind read?

end NumberWord

inductive Base where
  | two
  | eight
  | ten
  | sixteen
deriving DecidableEq

namespace Base

def value : Base → Nat
  | two => 2
  | eight => 8
  | ten => 10
  | sixteen => 16

/-- The letter after a zero that announces a base. -/
def mark? : Base → Option Char
  | two => some 'b'
  | eight => some 'o'
  | ten => none
  | sixteen => some 'x'

end Base

/-- A word that is no integer: it has too many digits, or is not written as one. -/
inductive IntegerFault where
  | tooLong (numeral : NumeralTooLong)
  | malformed (base : Base) (word : List Char)
deriving DecidableEq

def IntegerFault.message : IntegerFault → String
  | tooLong n => n.message
  | malformed base word =>
    s!"invalid literal for int() with base {base.value}: " ++
      String.ofList ((quoted (String.ofList word)).toList.take 200)

namespace NumberWord

def digitValue? (c : Char) : Option Nat :=
  if c.isDigit then some (c.toNat - '0'.toNat)
  else if 'a' ≤ c ∧ c ≤ 'z' then some (c.toNat - 'a'.toNat + 10)
  else if 'A' ≤ c ∧ c ≤ 'Z' then some (c.toNat - 'A'.toNat + 10)
  else none

def isDigitOf (base : Base) (c : Char) : Bool := (digitValue? c).any (· < base.value)

/-- Takes the mark of a base off; an underscore may follow it. -/
def dropMark (base : Base) : List Char → List Char
  | '0' :: m :: rest =>
    if base.mark? = some m.toLower then
      match rest with
      | '_' :: c :: more => if c = '_' then rest else c :: more
      | _ => rest
    else '0' :: m :: rest
  | digits => digits

def valueOf (base : Base) (digits : List Char) : Nat :=
  digits.foldl (fun n c => base.value * n + (digitValue? c).getD 0) 0

/-- The integer that a word is. Only in base ten is the number of digits limited. -/
def integer (base : Base) (word : List Char) : Except IntegerFault Int :=
  let (negative, text) := takeSign (plain word)
  let text := dropMark base text
  let run := text.takeWhile fun c => c == '_' || isDigitOf base c
  match joinDigits? (isDigitOf base) ' ' run with
  | none => .error (.malformed base word)
  | some digits =>
    if base = .ten ∧ numeralLimit < digits.length then .error (.tooLong ⟨digits.length⟩)
    else if digits = [] ∨ run.length < text.length then .error (.malformed base word)
    else
      let n := valueOf base digits
      .ok (if negative then -(n : Int) else n)

end NumberWord

end InputReplay
