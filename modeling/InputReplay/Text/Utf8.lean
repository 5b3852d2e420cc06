import InputReplay.Text.Quoted

/-! UTF-8. Bytes are taken one at a time; a sequence that was begun remembers which bytes may follow.
A file is read in blocks, and a flaw is told by its place in the block with what was carried over
from the block before. -/

namespace InputReplay
namespace Utf8

inductive Flaw where
  | invalidStart
  | invalidContinuation
  | unexpectedEnd
deriving DecidableEq

/-- Bytes that cannot be read: how many, from where on, and the first of them. -/
structure Fault where
  flaw : Flaw
  start : Nat
  length : Nat
  first : Nat
deriving DecidableEq

def Flaw.message : Flaw → String
  | invalidStart => "invalid start byte"
  | invalidContinuation => "invalid continuation byte"
  | unexpectedEnd => "unexpected end of data"

def Fault.message (f : Fault) : String :=
  let place := if f.length = 1
    then "byte 0x" ++ String.ofList (hexText 2 f.first) ++ s!" in position {f.start}"
    else s!"bytes in position {f.start}-{f.start + f.length - 1}"
  s!"'utf-8' codec can't decode {place}: {f.flaw.message}"

/-- A sequence that was begun. -/
structure Begun where
  first : Nat
  /-- How many of its bytes were read. -/
  length : Nat
  value : Nat
  /-- The least and the greatest byte that may come next. -/
  low : Nat
  high : Nat
  missing : Nat

/-- The sequence that a byte begins. -/
def begin? (b : Nat) : Option Begun :=
  if 0xc2 ≤ b ∧ b ≤ 0xdf then some ⟨b, 1, b - 0xc0, 0x80, 0xbf, 1⟩
  else if 0xe0 ≤ b ∧ b ≤ 0xef then
    some ⟨b, 1, b - 0xe0, if b = 0xe0 then 0xa0 else 0x80, if b = 0xed then 0x9f else 0xbf, 2⟩
  else if 0xf0 ≤ b ∧ b ≤ 0xf4 then
    some ⟨b, 1, b - 0xf0, if b = 0xf0 then 0x90 else 0x80, if b = 0xf4 then 0x8f else 0xbf, 3⟩
  else none

/-- One byte more: the characters it completes and the sequence that is then begun. -/
def step (place b : Nat) : Option Begun → Except Fault (List Char × Option Begun)
  | none =>
    if b < 0x80 then .ok ([Char.ofNat b], none)
    else match begin? b with
      | some begun => .ok ([], some begun)
      | none => .error ⟨.invalidStart, place, 1, b⟩
  | some s =>
    if s.low ≤ b ∧ b ≤ s.high then
      let value := 64 * s.value + (b - 0x80)
      if s.missing ≤ 1 then .ok ([Char.ofNat value], none)
      else .ok ([], some ⟨s.first, s.length + 1, value, 0x80, 0xbf, s.missing - 1⟩)
    else .error ⟨.invalidContinuation, place - s.length, s.length, s.first⟩

def carried : Option Begun → Nat
  | some s => s.length
  | none => 0

/-- How many bytes of a file are read at a time. -/
def blockSize : Nat := 8192

/-- Reads bytes, of which `left` remain in the block and the first is at `place` in it. -/
def decodeFrom (begun : Option Begun) (place left : Nat) : List UInt8 → Except Fault (List Char)
  | [] =>
    match begun with
    | none => .ok []
    | some s => .error ⟨.unexpectedEnd, 0, s.length, s.first⟩
  | b :: rest => do
    let (place, left) := if left = 0 then (carried begun, blockSize) else (place, left)
    let (chars, begun) ← step place b.toNat begun
    return chars ++ (← decodeFrom begun (place + 1) (left - 1) rest)

def decode (bytes : List UInt8) : Except Fault (List Char) := decodeFrom none 0 blockSize bytes

def encode (text : String) : List UInt8 := text.toUTF8.data.toList

end Utf8
end InputReplay
