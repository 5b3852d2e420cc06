import InputReplay.Text.Quoted

/-! Texts that were written with escapes. An escape may give a code that no character has, such as one
half of a pair that stands for a character; such a text is kept as its codes. -/

namespace InputReplay

inductive Wording where
  | whole (s : String)
  | broken (codes : List Nat)
deriving DecidableEq

namespace Wording

def ofCodes (codes : List Nat) : Wording :=
  if codes.all fun code => decide code.isValidChar then whole (String.ofList (codes.map Char.ofNat))
  else broken codes

def replacement : Char := '\ufffd'

/-- The text, with a replacement for each code that no character has. -/
def text : Wording → String
  | whole s => s
  | broken codes =>
    let charOf (code : Nat) : Char := if code.isValidChar then Char.ofNat code else replacement
    String.ofList (codes.map charOf)

end Wording

end InputReplay
