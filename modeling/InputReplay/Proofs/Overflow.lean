import InputReplay.Proofs.Grammar
import InputReplay.Proofs.Whole
import Mathlib.Algebra.Order.Field.Power
import Mathlib.Algebra.Order.Ring.Rat
import Mathlib.Tactic.Linarith
import Mathlib.Tactic.NormNum
import Mathlib.Tactic.Ring

/-! Decimals that are too large. A number is held as long as it is nearer to the greatest finite number than to the
next power of two, which would follow it; halfway between the two it is rounded to the even one, which is not held. So
a decimal is accepted where a number is expected just if what it says is below this middle, however many digits it
has and whatever its exponent is. -/

namespace InputReplay

/-- A quotient is rounded below an even number just if it is less than half of one below it. -/
theorem divNearest_lt_iff {n d k : Nat} (hd : 0 < d) (even : k % 2 = 0) :
    divNearest n d < k ↔ 2 * n + d < 2 * (d * k) := by
  have whole := Nat.div_add_mod n d
  have small := Nat.mod_lt n hd
  generalize hq : n / d = q at whole
  generalize hr : n % d = r at whole small
  unfold divNearest
  rw [hq, hr]
  rcases Nat.lt_trichotomy (q + 1) k with below | next | above
  · -- more than one away, on whichever side the quotient is rounded
    have room : d * (q + 2) ≤ d * k := Nat.mul_le_mul_left d below
    rw [Nat.mul_add] at room
    constructor
    · intro _
      omega
    · intro _
      split <;> omega
  · have odd : q % 2 = 1 := by omega
    have top : d * k = d * q + d := by rw [← next, Nat.mul_succ]
    constructor
    · intro h
      split at h <;> omega
    · intro h
      rw [if_pos (.inl (by omega))]
      omega
  · have beyond : d * k ≤ d * q := Nat.mul_le_mul_left d (by omega)
    constructor
    · intro h
      split at h <;> omega
    · intro h
      omega

/-- What is below a power of two is rounded to no more than it. -/
theorem toPrecision_le_pow {n d k : Nat} (below : n / d < pow2 k) : toPrecision n d ≤ pow2 k := by
  have few : excessBits (n / d) ≤ k := by
    by_cases none : n / d = 0
    · rw [none]
      exact Nat.zero_le k
    · have := (log2_lt_iff none).2 below
      unfold excessBits
      omega
  unfold toPrecision
  generalize excessBits (n / d) = e at few ⊢
  have split : pow2 k = pow2 (k - e) * pow2 e := by rw [← pow2_add, Nat.sub_add_cancel few]
  have inside : n / (d * pow2 e) < pow2 (k - e) := by
    rw [← Nat.div_div_eq_div_mul]
    exact Nat.div_lt_of_lt_mul (by rwa [Nat.mul_comm, ← split])
  rw [split]
  exact Nat.mul_le_mul_right _ (Nat.le_trans (divNearest_le _ _) inside)

/-- What is no less than a power of two is rounded to no less than it. -/
theorem pow_le_toPrecision {n d k : Nat} (above : pow2 k ≤ n / d) : pow2 k ≤ toPrecision n d := by
  have some : n / d ≠ 0 := by
    have := pow2_pos k
    omega
  have leading : pow2 (n / d).log2 ≤ n / d := Nat.log2_self_le some
  have size : pow2 k ≤ pow2 (n / d).log2 := Nat.pow_le_pow_right (by decide) ((le_log2_iff some).2 above)
  have few : excessBits (n / d) ≤ (n / d).log2 := Nat.sub_le _ _
  refine Nat.le_trans size ?_
  unfold toPrecision
  generalize excessBits (n / d) = e at few ⊢
  have split : pow2 (n / d).log2 = pow2 ((n / d).log2 - e) * pow2 e := by
    rw [← pow2_add, Nat.sub_add_cancel few]
  rw [split] at leading ⊢
  refine Nat.mul_le_mul_right _ (Nat.le_trans ?_ (le_divNearest _ _))
  rw [← Nat.div_div_eq_div_mul]
  exact (Nat.le_div_iff_mul_le (pow2_pos e)).2 leading

/-- The numbers of 53 bits end half of a last place below a power of two. -/
theorem toPrecision_lt_iff {n d s : Nat} (hd : 0 < d) :
    toPrecision n d < pow2 (53 + s) ↔ 2 * n + d * pow2 s < 2 * (d * pow2 (53 + s)) := by
  have double : pow2 (53 + s) = 2 * pow2 (52 + s) := by rw [← pow2_succ, Nat.add_right_comm]
  have unit : pow2 s ≤ pow2 (52 + s) := Nat.pow_le_pow_right (by decide) (Nat.le_add_left s 52)
  -- Only between the two powers is the last place the one of this power.
  rcases Nat.lt_or_ge (n / d) (pow2 (52 + s)) with low | some
  · have held := toPrecision_le_pow low
    have fits : n < pow2 (52 + s) * d := (Nat.div_lt_iff_lt_mul hd).1 low
    have last := Nat.mul_le_mul_left d unit
    rw [Nat.mul_comm] at fits
    constructor
    · intro _
      rw [double, Nat.mul_left_comm d]
      omega
    · intro _
      have := pow2_pos (52 + s)
      omega
  · rcases Nat.lt_or_ge (n / d) (pow2 (53 + s)) with high | beyond
    · have rounded : toPrecision n d = divNearest n (d * pow2 s) * pow2 s := by
        rw [toPrecision, excessBits_of_pow_le some high]
      have parts : pow2 (53 + s) = pow2 53 * pow2 s := pow2_add 53 s
      have scaled : d * pow2 (53 + s) = d * pow2 s * pow2 53 := by rw [parts, Nat.mul_assoc, Nat.mul_comm (pow2 53)]
      rw [rounded, parts, Nat.mul_lt_mul_right (pow2_pos s), ← parts, scaled]
      exact divNearest_lt_iff (Nat.mul_pos hd (pow2_pos s)) (by decide)
    · have far := pow_le_toPrecision beyond
      have much : pow2 (53 + s) * d ≤ n := (Nat.le_div_iff_mul_le hd).1 beyond
      rw [Nat.mul_comm] at much
      constructor <;> intro _ <;> omega

theorem cast_pow2 (k : Nat) : (pow2 k : ℚ) = 2 ^ k := Nat.cast_pow 2 k

namespace Binary64

/-- The middle between the greatest finite number and the power of two that follows it. -/
def overflow : ℚ := 2 ^ 1024 - 2 ^ 970

theorem isFinite_ofUnits_iff {negative : Bool} {n d : Nat} :
    (ofUnits negative n d).isFinite = true ↔ toPrecision n d < magnitudeLimit := by
  unfold ofUnits
  split
  · next held => simp [isFinite, held]
  · next beyond => simp [isFinite, beyond]

/-- A quotient is held just if it is below the middle. -/
theorem isFinite_ofRatio_iff {negative : Bool} {n d : Nat} (hd : 0 < d) :
    (ofRatio negative n d).isFinite = true ↔ (n : ℚ) / d < overflow := by
  have positive : (0 : ℚ) < d := by exact_mod_cast hd
  have limit : magnitudeLimit = pow2 (53 + 2045) := rfl
  have one : 2 * pow2 1074 = pow2 1075 := (pow2_succ 1074).symm
  have last : pow2 2045 = pow2 1075 * pow2 970 := pow2_add 1075 970
  have top : 2 * pow2 (53 + 2045) = pow2 1075 * pow2 1024 := by rw [← pow2_succ, ← pow2_add]
  have left : 2 * (n * unitsPerOne) + d * pow2 2045 = pow2 1075 * (n + d * pow2 970) := by
    rw [unitsPerOne_eq, Nat.mul_left_comm, one, last]
    ring
  have right : 2 * (d * pow2 (53 + 2045)) = pow2 1075 * (d * pow2 1024) := by
    rw [Nat.mul_left_comm, top]
    ring
  rw [ofRatio, isFinite_ofUnits_iff, limit, toPrecision_lt_iff hd, left, right,
    Nat.mul_lt_mul_left (pow2_pos 1075), ← Nat.cast_lt (α := ℚ), div_lt_iff₀ positive, overflow]
  push_cast [cast_pow2]
  generalize (2 : ℚ) ^ 970 = a
  generalize (2 : ℚ) ^ 1024 = b
  constructor <;> intro h <;> linarith

/-- The middle has a place among the powers of ten. -/
theorem overflow_bounds : 1 < overflow ∧ overflow < 10 ^ 401 := by
  have low : 1 + 2 ^ 970 < 2 ^ 1024 := by decide +kernel
  have high : 2 ^ 1024 < 10 ^ 401 := by decide +kernel
  have low' : (1 : ℚ) + 2 ^ 970 < 2 ^ 1024 := by exact_mod_cast low
  have high' : (2 : ℚ) ^ 1024 < 10 ^ 401 := by exact_mod_cast high
  exact ⟨lt_sub_iff_add_lt.2 low', (sub_lt_self _ (by positivity)).trans high'⟩

end Binary64

namespace Decimal

def value (x : Decimal) : ℚ := (if x.negative then -1 else 1) * (x.mantissa * 10 ^ x.exponent)

theorem abs_value (x : Decimal) : |x.value| = x.mantissa * 10 ^ x.exponent := by
  have positive : (0 : ℚ) ≤ x.mantissa * 10 ^ x.exponent := by positivity
  rw [value, abs_mul, abs_of_nonneg positive]
  split <;> simp

/-- A decimal is held just if it is below the middle, also where its power of ten is not computed. -/
theorem isFinite_toBinary64_iff (x : Decimal) : x.toBinary64.isFinite = true ↔ |x.value| < Binary64.overflow := by
  obtain ⟨low, high⟩ := Binary64.overflow_bounds
  have nothing : (Binary64.ofRatio x.negative 0 1).isFinite = true := by
    rw [Binary64.isFinite_ofRatio_iff Nat.one_pos, Nat.cast_zero, zero_div]
    linarith
  have ten : (1 : ℚ) ≤ 10 := by norm_num
  rw [abs_value, toBinary64]
  split
  · next none =>
    rw [none, Nat.cast_zero, zero_mul]
    exact ⟨fun _ => by linarith, fun _ => nothing⟩
  · next some =>
    have one : (1 : ℚ) ≤ x.mantissa := by exact_mod_cast Nat.one_le_iff_ne_zero.2 some
    split
    · next large =>
      refine ⟨fun finite => absurd finite Bool.false_ne_true, fun below => ?_⟩
      have grows : (10 : ℚ) ^ 401 ≤ 10 ^ x.exponent := by
        rw [← zpow_natCast]
        exact zpow_le_zpow_right₀ ten (by omega)
      have least : (10 : ℚ) ^ x.exponent ≤ x.mantissa * 10 ^ x.exponent :=
        le_mul_of_one_le_left (by positivity) one
      exact absurd below (not_lt_of_ge (high.le.trans (grows.trans least)))
    · split
      · next small =>
        refine ⟨fun _ => ?_, fun _ => nothing⟩
        -- the digits are too few to make up for the exponent
        have digits : (x.mantissa : ℚ) ≤ 10 ^ (x.mantissa.log2 + 1) := by
          have : x.mantissa ≤ 10 ^ (x.mantissa.log2 + 1) :=
            Nat.le_trans (Nat.le_of_lt Nat.lt_log2_self) (Nat.pow_le_pow_left (by decide) _)
          exact_mod_cast this
        have scaled : (x.mantissa : ℚ) * 10 ^ x.exponent ≤ 10 ^ (x.mantissa.log2 + 1 + x.exponent : ℤ) := by
          rw [zpow_add₀ (by norm_num)]
          exact mul_le_mul_of_nonneg_right (by exact_mod_cast digits) (by positivity)
        have little : (10 : ℚ) ^ (x.mantissa.log2 + 1 + x.exponent : ℤ) < 1 :=
          zpow_lt_one_of_neg₀ (by norm_num) (by omega)
        linarith
      · split
        · next e same =>
          rw [same, Binary64.isFinite_ofRatio_iff Nat.one_pos]
          simp [pow10]
        · next e same =>
          have positive : 0 < pow10 (e + 1) := Nat.pow_pos (by decide)
          rw [same, Binary64.isFinite_ofRatio_iff positive, zpow_negSucc]
          simp [pow10, div_eq_mul_inv]

/-- The middle itself is as near to either neighbour, and rounded to the one that is not held. -/
example : (Decimal.mk false (2 ^ 1024 - 2 ^ 970) 0).toBinary64.isFinite = false := by decide +kernel

example : (Decimal.mk true ((2 ^ 1024 - 2 ^ 970) * 10 ^ 3 - 1) (-3)).toBinary64.isFinite = true := by decide +kernel

end Decimal

/-- What is wrong with a text where a number is expected: it is no decimal, or one that is too large. -/
inductive NumberFlaw (isCoordinate : Bool) (text : List Char) : FieldError → Prop
  | spelled (other : ∀ d, ¬ DecimalText text d) :
      NumberFlaw isCoordinate text (.notNumber isCoordinate (String.ofList text))
  | large {d} (written : DecimalText text d) (beyond : Binary64.overflow ≤ |d.value|) :
      NumberFlaw isCoordinate text (.notFinite isCoordinate (String.ofList text))

theorem exists_numberText_iff {text : List Char} :
    (∃ x, NumberText text x) ↔ ∃ d, DecimalText text d ∧ |d.value| < Binary64.overflow := by
  constructor
  · rintro ⟨x, d, written, rfl, finite⟩
    exact ⟨d, written, d.isFinite_toBinary64_iff.1 finite⟩
  · rintro ⟨d, written, below⟩
    exact ⟨d.toBinary64, d, written, rfl, d.isFinite_toBinary64_iff.2 below⟩

theorem Tag.readNumber_of_flaw (tag : Tag) {isCoordinate : Bool} {text : List Char} {flaw : FieldError}
    (h : NumberFlaw isCoordinate text flaw) (field : String) :
    tag.readNumber isCoordinate field text = .error (.rejected (.argument tag.text field flaw)) := by
  unfold readNumber
  cases h with
  | spelled other =>
    cases read : Decimal.read? text with
    | none => rfl
    | some d => exact absurd (Decimal.read?_eq_some_iff.1 read) (other d)
  | large written beyond =>
    rw [Decimal.read?_eq_some_iff.2 written]
    exact if_neg fun finite => absurd ((Decimal.isFinite_toBinary64_iff _).1 finite) (not_lt_of_ge beyond)

/-- Where a number is expected there is one, or there is something wrong with the text. -/
theorem numberText_or_flaw (isCoordinate : Bool) (text : List Char) :
    (∃ x, NumberText text x) ∨ ∃ flaw, NumberFlaw isCoordinate text flaw := by
  by_cases some : ∃ d, DecimalText text d
  · obtain ⟨d, written⟩ := some
    rcases lt_or_ge |d.value| Binary64.overflow with below | beyond
    · exact .inl (exists_numberText_iff.2 ⟨d, written, below⟩)
    · exact .inr ⟨_, .large written beyond⟩
  · exact .inr ⟨_, .spelled fun d written => some ⟨d, written⟩⟩

/-- A text is taken for a number just if it is a plain decimal of which the exact value is below the middle of the
greatest finite number and the power of two after it. Every other text is reported as the error of its field that
says what is wrong with it. -/
theorem Tag.readNumber_ok_iff_below (tag : Tag) (isCoordinate : Bool) (field : String) (text : List Char) :
    ((∃ x, tag.readNumber isCoordinate field text = .ok x) ↔
      ∃ d, DecimalText text d ∧ |d.value| < 2 ^ 1024 - 2 ^ 970) ∧
    ∀ fault, tag.readNumber isCoordinate field text = .error fault ↔
      ∃ flaw, NumberFlaw isCoordinate text flaw ∧ fault = .rejected (.argument tag.text field flaw) := by
  refine ⟨?_, fun fault => ⟨fun raised => ?_, ?_⟩⟩
  · simp only [Tag.readNumber_eq_ok_iff]
    exact exists_numberText_iff
  · rcases numberText_or_flaw isCoordinate text with ⟨x, number⟩ | ⟨flaw, wrong⟩
    · rw [(tag.readNumber_eq_ok_iff).2 number] at raised
      cases raised
    · rw [tag.readNumber_of_flaw wrong field] at raised
      exact ⟨flaw, wrong, (Except.error.inj raised).symm⟩
  · rintro ⟨flaw, wrong, rfl⟩
    exact tag.readNumber_of_flaw wrong field

end InputReplay
