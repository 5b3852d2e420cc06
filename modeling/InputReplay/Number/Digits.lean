import InputReplay.Number.Decimal

/-! Decimal digits of binary64 numbers: the fewest that read back, or a given count of correctly
rounded ones; and how digits are laid out as text. -/

namespace InputReplay

/-- The number `value · 10 ^ exponent`. -/
structure Digits where
  value : Nat
  exponent : Int

namespace Magnitude

variable (m : Magnitude)

def quotient : Int → Nat × Nat
  | .ofNat e => (m.units, unitsPerOne * pow10 e)
  | .negSucc e => (m.units * pow10 (e + 1), unitsPerOne)

def belowPower (k : Int) : Bool := decide ((m.quotient k).1 < (m.quotient k).2)

/-- The least power of ten above a positive magnitude. The estimate from the leading bit is at most
two too small. -/
def point : Int :=
  let estimate := ((m.units.log2 : Int) - 1074) * 30103 / 100000
  if m.belowPower estimate then estimate
  else if m.belowPower (estimate + 1) then estimate + 1
  else estimate + 2

/-- The multiple of `10 ^ e` nearest to a magnitude. -/
def nearest (e : Int) : Digits := ⟨divNearest (m.quotient e).1 (m.quotient e).2, e⟩

/-- The multiple of `10 ^ e` on the other side of a magnitude. -/
def farther (e : Int) : Digits :=
  let floor := (m.quotient e).1 / (m.quotient e).2
  ⟨if (m.nearest e).value = floor then floor + 1 else floor, e⟩

def readsBack (d : Digits) : Bool :=
  Decimal.toBinary64 ⟨false, d.value, d.exponent⟩ == .finite false m

/-- The nearest decimal of `p` digits that reads back, or one of at most `more` digits more. -/
def shortestFrom (p : Nat) : Nat → Digits
  | 0 => m.nearest (m.point - p)
  | more + 1 =>
    if m.readsBack (m.nearest (m.point - p)) then m.nearest (m.point - p)
    else if m.readsBack (m.farther (m.point - p)) then m.farther (m.point - p)
    else shortestFrom (p + 1) more

/-- The fewest digits that read back, and of these the nearest. Seventeen always do. -/
def shortest : Digits := m.shortestFrom 1 16

/-- The magnitude rounded to `p` digits. -/
def rounded (p : Nat) : Digits := m.nearest (m.point - p)

end Magnitude

/-- Where positional notation ends and how a whole number is marked. -/
structure NumberLayout where
  /-- The least exponent of the leading digit that is written positionally. -/
  least : Int
  /-- The first exponent of the leading digit that is written scientifically. -/
  beyond : Int
  /-- What follows a whole number in positional notation. -/
  wholeMark : String

namespace NumberLayout

/-- A sign, and two digits at least. -/
def exponentText (e : Int) : String :=
  (if e < 0 then "e-" else "e+") ++ (if e.natAbs < 10 then "0" else "") ++ toString e.natAbs

def zeros (n : Nat) : String := String.ofList (List.replicate n '0')

/-- The digits `ds` with the point `point` places after their start. -/
def place (l : NumberLayout) (ds : List Char) (point : Int) : String :=
  if l.least ≤ point - 1 ∧ point - 1 < l.beyond then
    if point ≤ 0 then "0." ++ zeros point.natAbs ++ String.ofList ds
    else if ds.length ≤ point.natAbs then
      String.ofList ds ++ zeros (point.natAbs - ds.length) ++ l.wholeMark
    else String.ofList (ds.take point.natAbs) ++ "." ++ String.ofList (ds.drop point.natAbs)
  else String.ofList (ds.take 1) ++ (if ds.length ≤ 1 then "" else ".") ++
    String.ofList (ds.drop 1) ++ exponentText (point - 1)

/-- The text of digits, without the zeros at their end. -/
def digits (l : NumberLayout) (d : Digits) : String :=
  let all := Nat.toDigits 10 d.value
  l.place (all.reverse.dropWhile (· = '0')).reverse (all.length + d.exponent)

def signMark (negative : Bool) : String := if negative then "-" else ""

/-- The text of a number whose positive magnitudes are written with the digits chosen by `choose`. -/
def text (l : NumberLayout) (choose : Magnitude → Digits) : Binary64 → String
  | .nan => "nan"
  | .infinite s => signMark s ++ "inf"
  | .finite s m =>
    signMark s ++ if m.units = 0 then "0" ++ l.wholeMark else l.digits (choose m)

end NumberLayout

namespace Binary64

/-- Numbers are written positionally from `10 ^ -4` up to `10 ^ 16`, and a whole one shows a zero
after the point. -/
def plainLayout : NumberLayout := ⟨-4, 16, ".0"⟩

/-- The fewest digits that read back. -/
def text (x : Binary64) : String := plainLayout.text Magnitude.shortest x

/-- Six digits at most, positionally from `10 ^ -4` up to `10 ^ 6`. -/
def briefLayout : NumberLayout := ⟨-4, 6, ""⟩

def briefText (x : Binary64) : String := briefLayout.text (·.rounded 6) x

end Binary64

end InputReplay
