/-! Rounding a quotient of naturals: to the nearest natural, and to the nearest natural with at
most 53 significant bits. Ties go to the even neighbour. Rounding to 53 bits a second time changes
nothing. -/

namespace InputReplay

def pow2 (n : Nat) : Nat := Nat.pow 2 n

def pow10 (n : Nat) : Nat := Nat.pow 10 n

theorem pow2_pos (n : Nat) : 0 < pow2 n := Nat.two_pow_pos n

theorem pow2_add (m n : Nat) : pow2 (m + n) = pow2 m * pow2 n := Nat.pow_add 2 m n

/-- The natural number nearest to `n / d`; a tie goes to the even neighbour. -/
def divNearest (n d : Nat) : Nat :=
  if 2 * (n % d) < d ∨ (2 * (n % d) = d ∧ n / d % 2 = 0) then n / d else n / d + 1

/-- How many low bits of `q` lie below its 53 leading ones. -/
def excessBits (q : Nat) : Nat := q.log2 - 52

/-- The natural number with at most 53 significant bits nearest to `n / d`. -/
def toPrecision (n d : Nat) : Nat :=
  divNearest n (d * pow2 (excessBits (n / d))) * pow2 (excessBits (n / d))

theorem divNearest_mul_left {d : Nat} (k : Nat) (h : 0 < d) : divNearest (k * d) d = k := by
  simp [divNearest, Nat.mul_mod_left, Nat.mul_div_cancel k h, h]

theorem le_divNearest (n d : Nat) : n / d ≤ divNearest n d := by
  unfold divNearest; split <;> omega

theorem divNearest_le (n d : Nat) : divNearest n d ≤ n / d + 1 := by
  unfold divNearest; split <;> omega

theorem excessBits_eq_zero {q : Nat} (h : q < pow2 53) : excessBits q = 0 := by
  unfold excessBits
  by_cases hq : q = 0
  · subst hq; rfl
  · have := (Nat.log2_lt hq).2 h
    omega

theorem excessBits_of_pow_le {q s : Nat} (lo : pow2 (52 + s) ≤ q) (hi : q < pow2 (53 + s)) :
    excessBits q = s := by
  have hq : q ≠ 0 := by have := pow2_pos (52 + s); omega
  have h1 := (Nat.le_log2 hq).2 lo
  have h2 := (Nat.log2_lt hq).2 hi
  unfold excessBits
  omega

/-- A natural number of at most 53 significant bits is its own rounding. -/
theorem toPrecision_mul_pow {m s : Nat} (hi : m ≤ pow2 53) (lo : s = 0 ∨ pow2 52 ≤ m) :
    toPrecision (m * pow2 s) 1 = m * pow2 s := by
  have hs := pow2_pos s
  rcases Nat.lt_or_eq_of_le hi with hlt | heq
  · have he : excessBits (m * pow2 s / 1) = s := by
      rw [Nat.div_one]
      rcases lo with rfl | hlo
      · exact (congrArg excessBits (Nat.mul_one m)).trans (excessBits_eq_zero hlt)
      · apply excessBits_of_pow_le
        · rw [pow2_add]; exact Nat.mul_le_mul_right _ hlo
        · rw [pow2_add]; exact Nat.mul_lt_mul_of_pos_right hlt hs
    rw [toPrecision, he, Nat.one_mul, divNearest_mul_left m hs]
  · subst heq
    have he : excessBits (pow2 53 * pow2 s / 1) = s + 1 := by
      rw [Nat.div_one, ← pow2_add]
      apply excessBits_of_pow_le
      · exact Nat.pow_le_pow_right (by decide) (by omega)
      · exact Nat.pow_lt_pow_right (by decide) (by omega)
    have hsplit : pow2 53 * pow2 s = pow2 52 * pow2 (s + 1) := by
      rw [← pow2_add, ← pow2_add]; congr 1; omega
    rw [toPrecision, he, Nat.one_mul, hsplit, divNearest_mul_left _ (pow2_pos _)]

theorem divNearest_precision_le (n d : Nat) :
    divNearest n (d * pow2 (excessBits (n / d))) ≤ pow2 53 := by
  refine Nat.le_trans (divNearest_le _ _) ?_
  rw [← Nat.div_div_eq_div_mul]
  have hpos := pow2_pos (excessBits (n / d))
  suffices h : n / d / pow2 (excessBits (n / d)) < pow2 53 by omega
  rw [Nat.div_lt_iff_lt_mul hpos, ← pow2_add]
  by_cases hq : n / d = 0
  · rw [hq]; exact pow2_pos _
  · apply (Nat.log2_lt hq).1
    unfold excessBits
    omega

theorem le_divNearest_precision (n d : Nat) :
    excessBits (n / d) = 0 ∨ pow2 52 ≤ divNearest n (d * pow2 (excessBits (n / d))) := by
  by_cases hs : excessBits (n / d) = 0
  · exact .inl hs
  · right
    refine Nat.le_trans ?_ (le_divNearest _ _)
    rw [← Nat.div_div_eq_div_mul, Nat.le_div_iff_mul_le (pow2_pos _), ← pow2_add]
    have hq : n / d ≠ 0 := by
      intro h; rw [h] at hs; exact hs rfl
    apply (Nat.le_log2 hq).1
    unfold excessBits at hs ⊢
    omega

/-- What is rounded is of at most 53 significant bits, so rounding it again changes nothing. -/
theorem toPrecision_toPrecision (n d : Nat) : toPrecision (toPrecision n d) 1 = toPrecision n d :=
  toPrecision_mul_pow (divNearest_precision_le n d) (le_divNearest_precision n d)

end InputReplay
