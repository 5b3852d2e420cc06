import InputReplay.Number.Binary64

/-! Spans of time. Whatever waits or measures time asks only for the operations of this class, so
that it can be studied over exact numbers too. -/

namespace InputReplay

class Duration (τ : Type) where
  isPositive : τ → Bool
  /-- One of several equal parts; there is none when they are too many to count. -/
  part : τ → Nat → Option τ
  /-- The time from the second instant to the first. -/
  since : τ → τ → τ

instance : Duration Binary64 where
  isPositive := Binary64.isPositive
  part x n := if (Binary64.ofNat n).isFinite then some (x.div (.ofNat n)) else none
  since x y := x - y

end InputReplay
