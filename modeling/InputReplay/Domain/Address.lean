import InputReplay.Text.Ascii
import InputReplay.Text.Fields

/-! Numeric addresses: four numbers between dots, or eight groups of hexadecimal digits between
colons. Two colons in a row stand for at least one group of zeros, the last two groups may be
written as four numbers, and a zone may follow a percent sign. -/

namespace InputReplay
namespace Address

/-- Whether digits are a number from 0 to 255 without leading zeros. -/
def isOctet (digits : List Char) : Bool :=
  digits ≠ [] && digits.all Char.isDigit && decide (digits.length ≤ 3) &&
    (digits = ['0'] || digits.head? ≠ some '0') &&
    decide (digits.foldl (fun n c => 10 * n + (c.toNat - '0'.toNat)) 0 ≤ 255)

/-- Whether a text is an address of four numbers. -/
def isShort (text : List Char) : Bool :=
  let octets := fields '.' text
  decide (octets.length = 4) && octets.all isOctet

def isGroup (digits : List Char) : Bool :=
  digits ≠ [] && decide (digits.length ≤ 4) && digits.all isHexDigit

/-- What stands between the colons, with four numbers at the end as two groups. -/
def groups? (text : List Char) : Option (List (List Char)) :=
  let parts := fields ':' text
  let last := parts.getLastD []
  if parts.length < 3 then none
  else if '.' ∈ last then
    if isShort last then some (parts.dropLast ++ [['0'], ['0']]) else none
  else some parts

/-- Whether there are eight groups, or fewer around an empty one. At either end of a text the empty
group is written twice. -/
def areGroups (groups : List (List Char)) : Bool :=
  match (groups.drop 1).dropLast.findIdx? (· = []) with
  | none => decide (groups.length = 8) && groups.all isGroup
  | some i =>
    let side (part : List (List Char)) := if part = [[]] then [] else part
    let rest := side (groups.take (i + 1)) ++ side (groups.drop (i + 2))
    decide (rest.length < 8) && rest.all isGroup

/-- Whether a text is an address of eight groups. -/
def isLong (text : List Char) : Bool :=
  let zone := text.dropWhile (· ≠ '%')
  let hasZone := zone = [] || (decide (2 ≤ zone.length) && !(zone.drop 1).contains '%')
  hasZone && (groups? (text.takeWhile (· ≠ '%'))).any areGroups

/-- Whether a text looks like an address of four numbers, however great they are. -/
def looksShort (text : List Char) : Bool :=
  let numbers := fields '.' text
  decide (numbers.length = 4) && numbers.all fun n => n ≠ [] && n.all Char.isDigit

end Address
end InputReplay
