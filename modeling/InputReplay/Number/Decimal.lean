import InputReplay.Number.Binary64

/-! Decimals: reading a plain decimal text as an exact number, and the binary64 number nearest to a
decimal. A plain decimal is an optional sign, ASCII digits with an optional point among or around
them, and an optional exponent. -/

namespace InputReplay

/-- The number `± mantissa · 10 ^ exponent`. -/
structure Decimal where
  negative : Bool
  mantissa : Nat
  exponent : Int
deriving DecidableEq

/-- The value of a run of digits, most significant first. -/
def numeral (digits : List Char) : Nat :=
  digits.foldl (fun n c => 10 * n + (c.toNat - '0'.toNat)) 0

/-- Takes an optional sign off a text; `true` is a minus. -/
def takeSign : List Char → Bool × List Char
  | '-' :: rest => (true, rest)
  | '+' :: rest => (false, rest)
  | text => (false, text)

/-- An optional sign and at least one digit. -/
def readInteger? (text : List Char) : Option Int :=
  let (negative, digits) := takeSign text
  if digits ≠ [] ∧ digits.all Char.isDigit then
    some (if negative then -(numeral digits : Int) else numeral digits)
  else none

namespace Decimal

/-- An exponent, or nothing at all. -/
def readExponent? : List Char → Option Int
  | [] => some 0
  | c :: rest => if c = 'e' ∨ c = 'E' then readInteger? rest else none

/-- Takes a point and the digits after it off a text. -/
def takeFraction : List Char → List Char × List Char
  | '.' :: rest => (rest.takeWhile Char.isDigit, rest.dropWhile Char.isDigit)
  | text => ([], text)

def read? (text : List Char) : Option Decimal := do
  let (negative, rest) := takeSign text
  let whole := rest.takeWhile Char.isDigit
  let (fraction, rest) := takeFraction (rest.dropWhile Char.isDigit)
  guard (whole ≠ [] ∨ fraction ≠ [])
  let exponent ← readExponent? rest
  return ⟨negative, numeral (whole ++ fraction), exponent - fraction.length⟩

/-- The binary64 number nearest to a decimal. Exponents that put it beyond every finite number, or
below half of the least positive one, are settled without computing the power of ten. -/
def toBinary64 (x : Decimal) : Binary64 :=
  if x.mantissa = 0 then .ofRatio x.negative 0 1
  else if x.exponent > 400 then .infinite x.negative
  else if x.exponent < -(x.mantissa.log2 + 400 : Int) then .ofRatio x.negative 0 1
  else match x.exponent with
    | .ofNat e => .ofRatio x.negative (x.mantissa * pow10 e) 1
    | .negSucc e => .ofRatio x.negative x.mantissa (pow10 (e + 1))

end Decimal

end InputReplay
