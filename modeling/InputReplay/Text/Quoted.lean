import InputReplay.Text.UnprintableTable
import InputReplay.Text.CaseTable

/-! Quoted text, as messages show it: in single quotes, or in double quotes when the text holds a
single quote and no double one. The quote in use, the backslash and every character without a
printed form are escaped. -/

namespace InputReplay

def isPrintable (c : Char) : Bool :=
  if c.toNat < 127 then decide (32 ≤ c.toNat) else !inRanges unprintableRanges c.toNat

/-- The lower-case hexadecimal digits of a number, padded to a width. -/
def hexText (width n : Nat) : List Char :=
  let digits := Nat.toDigits 16 n
  List.replicate (width - digits.length) '0' ++ digits

/-- A character as its code. -/
def escapeCode (code : Nat) : List Char :=
  if code < 0x100 then ['\\', 'x'] ++ hexText 2 code
  else if code < 0x10000 then ['\\', 'u'] ++ hexText 4 code
  else ['\\', 'U'] ++ hexText 8 code

def escapeChar (quote c : Char) : List Char :=
  if c = quote ∨ c = '\\' then ['\\', c]
  else if c = '\n' then ['\\', 'n']
  else if c = '\r' then ['\\', 'r']
  else if c = '\t' then ['\\', 't']
  else if isPrintable c then [c]
  else escapeCode c.toNat

def quoteFor (text : List Char) : Char :=
  if '\'' ∈ text ∧ '"' ∉ text then '"' else '\''

def quoted (text : String) : String :=
  let quote := quoteFor text.toList
  String.ofList (quote :: text.toList.flatMap (escapeChar quote) ++ [quote])

/-- A text of codes in quotes; one that no character has is escaped. -/
def quotedCodes (codes : List Nat) : String :=
  let quote := quoteFor (codes.map Char.ofNat)
  let escape (code : Nat) : List Char :=
    if code.isValidChar then escapeChar quote (Char.ofNat code) else escapeCode code
  String.ofList (quote :: codes.flatMap escape ++ [quote])

end InputReplay
