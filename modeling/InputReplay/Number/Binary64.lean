import InputReplay.Number.Nearest

/-! Binary floating-point numbers of 53 bits. A finite number is a sign and a count of units of
`2 ^ -1074`, so that sums, differences and products are exact naturals before they are rounded, to
nearest with ties to even. Zero keeps its sign. -/

namespace InputReplay

/-- How many units of `2 ^ -1074` make one. -/
def unitsPerOne : Nat := pow2 1074

/-- The first power of two in units that is too large to be finite. -/
def magnitudeLimit : Nat := pow2 2098

/-- A magnitude that is held exactly: at most 53 significant bits, below `2 ^ 1024`. -/
structure Magnitude where
  units : Nat
  exact : toPrecision units 1 = units
  bounded : units < magnitudeLimit
deriving DecidableEq

inductive Binary64 where
  | nan
  | infinite (negative : Bool)
  | finite (negative : Bool) (magnitude : Magnitude)
deriving DecidableEq

/-- Why a number has no integer part. -/
inductive NotFinite where
  | infinity
  | nan
deriving DecidableEq

namespace Binary64

/-- The number nearest to `n / d` units, infinite when that is too large. -/
def ofUnits (negative : Bool) (n d : Nat) : Binary64 :=
  if h : toPrecision n d < magnitudeLimit then
    finite negative ⟨toPrecision n d, toPrecision_toPrecision n d, h⟩
  else infinite negative

/-- The number nearest to `n / d`. -/
def ofRatio (negative : Bool) (n d : Nat) : Binary64 := ofUnits negative (n * unitsPerOne) d

def ofNat (n : Nat) : Binary64 := ofRatio false n 1

def ofInt (i : Int) : Binary64 := ofRatio (decide (i < 0)) i.natAbs 1

def zero : Binary64 := ofNat 0

def isFinite : Binary64 → Bool
  | finite _ _ => true
  | _ => false

/-- The signed count of units of a finite number. -/
def units? : Binary64 → Option Int
  | finite true m => some (-(m.units : Int))
  | finite false m => some m.units
  | _ => none

def neg : Binary64 → Binary64
  | nan => nan
  | infinite s => infinite !s
  | finite s m => finite (!s) m

def abs : Binary64 → Binary64
  | nan => nan
  | infinite _ => infinite false
  | finite _ m => finite false m

/-- Opposite numbers add up to the positive zero. -/
def add : Binary64 → Binary64 → Binary64
  | nan, _ => nan
  | _, nan => nan
  | infinite s, infinite t => if s = t then infinite s else nan
  | infinite s, finite _ _ => infinite s
  | finite _ _, infinite t => infinite t
  | finite s a, finite t b =>
    if s = t then ofUnits s (a.units + b.units) 1
    else if b.units < a.units then ofUnits s (a.units - b.units) 1
    else if a.units < b.units then ofUnits t (b.units - a.units) 1
    else zero

def sub (x y : Binary64) : Binary64 := x.add y.neg

def mul : Binary64 → Binary64 → Binary64
  | nan, _ => nan
  | _, nan => nan
  | infinite s, infinite t => infinite (s != t)
  | infinite s, finite t b => if b.units = 0 then nan else infinite (s != t)
  | finite s a, infinite t => if a.units = 0 then nan else infinite (s != t)
  | finite s a, finite t b => ofUnits (s != t) (a.units * b.units) unitsPerOne

def div : Binary64 → Binary64 → Binary64
  | nan, _ => nan
  | _, nan => nan
  | infinite _, infinite _ => nan
  | infinite s, finite t _ => infinite (s != t)
  | finite s _, infinite t => ofUnits (s != t) 0 1
  | finite s a, finite t b =>
    if b.units = 0 then if a.units = 0 then nan else infinite (s != t)
    else ofRatio (s != t) a.units b.units

/-- A number that is not a number is below none and above none. -/
def lt : Binary64 → Binary64 → Bool
  | nan, _ => false
  | _, nan => false
  | infinite s, infinite t => s && !t
  | infinite s, finite _ _ => s
  | finite _ _, infinite t => !t
  | finite s a, finite t b =>
    decide ((if s then -(a.units : Int) else a.units) < if t then -(b.units : Int) else b.units)

/-- Equality of values: the two zeros are equal, and what is not a number equals nothing. -/
def eqv : Binary64 → Binary64 → Bool
  | nan, _ => false
  | _, nan => false
  | infinite s, infinite t => s == t
  | finite s a, finite t b => a.units == b.units && (s == t || a.units == 0)
  | _, _ => false

def le (x y : Binary64) : Bool := lt x y || eqv x y

instance : Neg Binary64 := ⟨neg⟩
instance : Add Binary64 := ⟨add⟩
instance : Sub Binary64 := ⟨sub⟩
instance : Mul Binary64 := ⟨mul⟩

def isPositive (x : Binary64) : Bool := lt zero x

def isZero (x : Binary64) : Bool := eqv x zero

def signed (negative : Bool) (n : Nat) : Int := if negative then -(n : Int) else n

/-- Reads off an integer from the sign and the units of a finite number. -/
def toInteger (f : Nat → Nat) : Binary64 → Except NotFinite Int
  | nan => .error .nan
  | infinite _ => .error .infinity
  | finite s m => .ok (signed s (f m.units))

def truncate : Binary64 → Except NotFinite Int := toInteger (· / unitsPerOne)

/-- The nearest integer, a half going to the even neighbour. -/
def round : Binary64 → Except NotFinite Int := toInteger (divNearest · unitsPerOne)

def isIntegral : Binary64 → Bool
  | finite _ m => m.units % unitsPerOne == 0
  | _ => false

def half : Binary64 := ofRatio false 1 2

/-- Whole scroll units for a possibly fractional amount: the floor of `|x| + 1/2`, the sum being
rounded as any sum is, but at least one unit unless the amount is zero; with the sign of `x`. -/
def scrollUnits (x : Binary64) : Except NotFinite Int := do
  let units ← truncate (x.abs + half)
  let units := if units = 0 ∧ ¬ x.isZero then 1 else units
  return if x.lt zero then -units else units

end Binary64

end InputReplay
