import InputReplay.Text.Quoted

/-! Texts that have to be ASCII, and the hexadecimal digits in it. -/

namespace InputReplay

/-- Characters beyond ASCII: how many in a row, from where on, and the first of them. -/
structure BeyondAscii where
  start : Nat
  length : Nat
  first : Char
deriving DecidableEq

namespace BeyondAscii

def message (f : BeyondAscii) : String :=
  let place := if f.length = 1
    then "character '" ++ String.ofList (escapeCode f.first.toNat) ++ s!"' in position {f.start}"
    else s!"characters in position {f.start}-{f.start + f.length - 1}"
  s!"'ascii' codec can't encode {place}: ordinal not in range(128)"

end BeyondAscii

def isAscii (text : List Char) : Bool := text.all fun c => decide (c.toNat < 128)

def isHexDigit (c : Char) : Bool :=
  c.isDigit || (decide ('a' ≤ c.toLower) && decide (c.toLower ≤ 'f'))

/-- The first characters of a text that are beyond ASCII. -/
def beyondAscii? (text : List Char) : Option BeyondAscii :=
  match text.dropWhile fun c => decide (c.toNat < 128) with
  | [] => none
  | c :: rest => some {
    start := text.length - (rest.length + 1)
    length := ((c :: rest).takeWhile fun d => decide (128 ≤ d.toNat)).length
    first := c }

end InputReplay
