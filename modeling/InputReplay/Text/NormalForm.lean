import InputReplay.Text.CaseTable
import InputReplay.Text.CombiningTable
import InputReplay.Text.CompositionTable

/-! The composed normal form of a text: characters are taken apart, their marks put in order, and the
parts put together again. A text is in normal form when this gives it back and it holds none of the
characters that always give way to others. -/

namespace InputReplay

/-- The combining class of a character, zero for one that starts anew. -/
def combiningClass (c : Char) : Nat :=
  ((combiningClasses.find? fun k => inRanges k.2 c.toNat).map (·.1)).getD 0

/-- The two parts that a character is made of. -/
def parts? (c : Char) : Option (Char × Char) :=
  compositions.findSome? fun (second, makes) =>
    (makes.find? (·.2 == c.toNat)).map fun (first, _) => (Char.ofNat first, Char.ofNat second)

/-- The syllable that two letters of Hangul make, or a syllable with one letter more. -/
def syllable? (a b : Nat) : Option Nat :=
  if 0x1100 ≤ a ∧ a < 0x1113 ∧ 0x1161 ≤ b ∧ b < 0x1176 then
    some (0xac00 + ((a - 0x1100) * 21 + (b - 0x1161)) * 28)
  else if 0xac00 ≤ a ∧ a < 0xd7a4 ∧ (a - 0xac00) % 28 = 0 ∧ 0x11a7 < b ∧ b < 0x11c3 then
    some (a + (b - 0x11a7))
  else none

/-- The character that two others make. -/
def whole? (first second : Char) : Option Char :=
  match syllable? first.toNat second.toNat with
  | some n => some (Char.ofNat n)
  | none => (compositions.lookup second.toNat).bind fun makes =>
    (makes.lookup first.toNat).map Char.ofNat

/-- Takes a character apart, and its first part again, `n` times at most. -/
def takeApart : Nat → Char → List Char
  | 0, c => [c]
  | n + 1, c =>
    match parts? c with
    | some (first, second) => takeApart n first ++ [second]
    | none => [c]

/-- Puts a character behind a text, which is given backwards; a mark goes before those of greater
classes. -/
def putMark (c : Char) : List Char → List Char
  | [] => [c]
  | d :: before =>
    if 0 < combiningClass c ∧ combiningClass c < combiningClass d then d :: putMark c before
    else c :: d :: before

/-- Puts together the character `first`, the marks after it that it did not take up, backwards, and
the rest. A mark is out of reach behind one of no lesser class. -/
def composeAfter (first : Char) (marks : List Char) : List Char → List Char
  | [] => first :: marks.reverse
  | c :: rest =>
    let reached := marks.head?.all fun m => decide (combiningClass m < combiningClass c)
    match if reached then whole? first c else none with
    | some whole => composeAfter whole marks rest
    | none =>
      if combiningClass c = 0 then first :: marks.reverse ++ composeAfter c [] rest
      else composeAfter first (c :: marks) rest

/-- A text with its characters taken apart and put together. No character has more than four parts. -/
def composed (text : List Char) : List Char :=
  match ((text.flatMap (takeApart 3)).foldl (fun done c => putMark c done) []).reverse with
  | [] => []
  | c :: rest => composeAfter c [] rest

def isNormal (text : List Char) : Bool :=
  text.all (!inRanges givingWayRanges ·.toNat) && composed text == text

end InputReplay
