/-! Bytes written in base 64: four characters stand for three bytes. Characters beyond the sixty-four
are passed over, and padding ends the text where it completes a group. -/

namespace InputReplay
namespace Base64

def digit? (c : Char) : Option Nat :=
  if 'A' ≤ c ∧ c ≤ 'Z' then some (c.toNat - 'A'.toNat)
  else if 'a' ≤ c ∧ c ≤ 'z' then some (c.toNat - 'a'.toNat + 26)
  else if c.isDigit then some (c.toNat - '0'.toNat + 52)
  else if c = '+' then some 62
  else if c = '/' then some 63
  else none

/-- A group that was begun: how many of its characters were read, the bits of them that are in no byte
yet, and how many paddings follow. -/
structure Group where
  length : Nat
  bits : Nat
  paddings : Nat

/-- Adds a character to a group: the byte that it completes, and the group after it. -/
def Group.add (g : Group) (d : Nat) : Option UInt8 × Group :=
  match g.length with
  | 0 => (none, ⟨1, d, 0⟩)
  | 1 => (some (UInt8.ofNat (g.bits * 4 + d / 16)), ⟨2, d % 16, 0⟩)
  | 2 => (some (UInt8.ofNat (g.bits * 16 + d / 4)), ⟨3, d % 4, 0⟩)
  | _ => (some (UInt8.ofNat (g.bits * 64 + d)), ⟨0, 0, 0⟩)

/-- Reads characters; a text that ends within a group stands for no bytes. -/
def decodeFrom (g : Group) : List Char → Option (List UInt8)
  | [] => if g.length = 0 then some [] else none
  | c :: rest =>
    if c = '=' then
      if 2 ≤ g.length then
        if 4 ≤ g.length + g.paddings + 1 then some []
        else decodeFrom { g with paddings := g.paddings + 1 } rest
      else decodeFrom g rest
    else match digit? c with
      | none => decodeFrom g rest
      | some d =>
        let (byte, g) := g.add d
        (byte.toList ++ ·) <$> decodeFrom g rest

def decode? (text : List Char) : Option (List UInt8) := decodeFrom ⟨0, 0, 0⟩ text

end Base64
end InputReplay
