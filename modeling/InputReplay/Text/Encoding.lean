import InputReplay.Text.Utf8

/-! The encodings a JSON document may come in: UTF-8, UTF-16 and UTF-32, told apart by a mark at the
start or by where the zero bytes of the first character are. -/

namespace InputReplay

inductive Encoding where
  | utf8
  | utf16 (bigEndian : Bool)
  | utf32 (bigEndian : Bool)
deriving DecidableEq

namespace Encoding

/-- The encoding of a document, and its bytes without a mark. -/
def detect : List UInt8 → Encoding × List UInt8
  | 0x00 :: 0x00 :: 0xfe :: 0xff :: rest => (utf32 true, rest)
  | 0xff :: 0xfe :: 0x00 :: 0x00 :: rest => (utf32 false, rest)
  | 0xfe :: 0xff :: rest => (utf16 true, rest)
  | 0xff :: 0xfe :: rest => (utf16 false, rest)
  | 0xef :: 0xbb :: 0xbf :: rest => (utf8, rest)
  | bytes => (unmarked bytes, bytes)
where
  unmarked : List UInt8 → Encoding
    | [a, b] => if a = 0 then utf16 true else if b = 0 then utf16 false else utf8
    | a :: b :: c :: d :: _ =>
      if a = 0 then if b = 0 then utf32 true else utf16 true
      else if b = 0 then if c = 0 ∧ d = 0 then utf32 false else utf16 false
      else utf8
    | _ => utf8

def unit (bigEndian : Bool) (a b : UInt8) : Nat :=
  if bigEndian then 256 * a.toNat + b.toNat else 256 * b.toNat + a.toNat

def units (bigEndian : Bool) : List UInt8 → Option (List Nat)
  | [] => some []
  | a :: b :: rest => (units bigEndian rest).map (unit bigEndian a b :: ·)
  | _ => none

/-- Characters of UTF-16 units; a unit of a pair that stands alone is replaced. -/
def ofUnits (high : Option Nat) : List Nat → List Char
  | [] => if high.isSome then ['\ufffd'] else []
  | u :: rest =>
    if 0xdc00 ≤ u ∧ u < 0xe000 then
      match high with
      | some h => Char.ofNat (0x10000 + (h - 0xd800) * 0x400 + (u - 0xdc00)) :: ofUnits none rest
      | none => '\ufffd' :: ofUnits none rest
    else
      let before := if high.isSome then ['\ufffd'] else []
      if 0xd800 ≤ u ∧ u < 0xdc00 then before ++ ofUnits (some u) rest
      else before ++ Char.ofNat u :: ofUnits none rest

def quads (bigEndian : Bool) : List UInt8 → Option (List Char)
  | [] => some []
  | a :: b :: c :: d :: rest =>
    let code := if bigEndian then 65536 * unit true a b + unit true c d
      else 65536 * unit false c d + unit false a b
    if code < 0x110000 then (quads bigEndian rest).map (Char.ofNat code :: ·) else none
  | _ => none

def decode? (bytes : List UInt8) : Option (List Char) :=
  match detect bytes with
  | (utf8, rest) => (Utf8.decode rest).toOption
  | (utf16 bigEndian, rest) => (units bigEndian rest).map (ofUnits none)
  | (utf32 bigEndian, rest) => quads bigEndian rest

end Encoding

end InputReplay
