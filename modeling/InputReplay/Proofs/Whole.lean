import InputReplay.Command.Parser
import Mathlib.Data.List.TakeWhile

/-! Whole numbers. The integer part of a number is held exactly, and so is every integer of at most 53 bits;
the decimal text of an integer that is held exactly is read back as the same number. Rounding to an integer and
to whole scroll units fails for no finite number. -/

namespace InputReplay

theorem pow2_dvd {m n : Nat} (h : m ≤ n) : pow2 m ∣ pow2 n := Nat.pow_dvd_pow 2 h

theorem pow2_lt {m n : Nat} (h : m < n) : pow2 m < pow2 n := Nat.pow_lt_pow_right (by decide) h

theorem log2_lt_iff {q k : Nat} (hq : q ≠ 0) : q.log2 < k ↔ q < pow2 k := Nat.log2_lt hq

theorem le_log2_iff {q k : Nat} (hq : q ≠ 0) : k ≤ q.log2 ↔ pow2 k ≤ q := Nat.le_log2 hq

/-- A natural number is its own rounding if the bits below its 53 leading ones are zero, and only then. -/
theorem toPrecision_eq_self_iff (q : Nat) : toPrecision q 1 = q ↔ pow2 (excessBits q) ∣ q := by
  have rounded : toPrecision q 1 = divNearest q (pow2 (excessBits q)) * pow2 (excessBits q) := by
    rw [toPrecision, Nat.div_one, Nat.one_mul]
  rw [rounded]
  constructor
  · intro same
    exact ⟨divNearest q (pow2 (excessBits q)), by rw [Nat.mul_comm, same]⟩
  · intro divides
    obtain ⟨k, hk⟩ := divides
    generalize excessBits q = e at hk ⊢
    rw [hk, Nat.mul_comm (pow2 e) k, divNearest_mul_left k (pow2_pos e)]

theorem log2_eq {q k : Nat} (low : pow2 k ≤ q) (high : q < pow2 (k + 1)) : q.log2 = k := by
  have hq : q ≠ 0 := by
    have := pow2_pos k
    omega
  have least := (le_log2_iff hq).2 low
  have most := (log2_lt_iff hq).2 high
  omega

theorem pow2_succ (n : Nat) : pow2 (n + 1) = 2 * pow2 n := Nat.pow_succ'

theorem toPrecision_le (q : Nat) : toPrecision q 1 ≤ q + pow2 (excessBits q) := by
  rw [toPrecision, Nat.div_one, Nat.one_mul]
  refine Nat.le_trans (Nat.mul_le_mul_right _ (divNearest_le _ _)) ?_
  rw [Nat.add_mul, Nat.one_mul]
  exact Nat.add_le_add_right (Nat.div_mul_le_self _ _) _

/-- What is less than half of the last place is rounded off. -/
theorem toPrecision_add_eq {q r : Nat} (divides : pow2 (excessBits (q + r)) ∣ q)
    (small : 2 * r < pow2 (excessBits (q + r))) : toPrecision (q + r) 1 = q := by
  rw [toPrecision, Nat.div_one, Nat.one_mul]
  generalize pow2 (excessBits (q + r)) = d at divides small ⊢
  obtain ⟨k, rfl⟩ := divides
  have rest : (d * k + r) % d = r := by
    rw [Nat.mul_add_mod, Nat.mod_eq_of_lt (by omega)]
  have whole : (d * k + r) / d = k := by
    rw [Nat.mul_add_div (by omega), Nat.div_eq_of_lt (by omega), Nat.add_zero]
  rw [divNearest, rest, if_pos (.inl small), whole, Nat.mul_comm]

/-- A number of 53 bits stays below a power of two when less than half of the last place there is added. -/
theorem toPrecision_add_lt {q r s : Nat} (exact : toPrecision q 1 = q) (bound : q < pow2 (53 + s))
    (small : 2 * r < pow2 s) : toPrecision (q + r) 1 < pow2 (53 + s) := by
  have divides := (toPrecision_eq_self_iff q).1 exact
  have top : pow2 (53 + s) = 2 * pow2 (52 + s) := by rw [← pow2_succ, Nat.add_right_comm]
  have room : 2 * pow2 s ≤ pow2 (52 + s) := by
    rw [← pow2_succ]
    exact Nat.pow_le_pow_right (by decide) (by omega)
  rcases Nat.lt_or_ge q (pow2 (52 + s)) with low | high
  · have most := toPrecision_le (q + r)
    have few : excessBits (q + r) ≤ s := by
      by_cases none : q + r = 0
      · rw [none]
        exact Nat.zero_le s
      · have fits : q + r < pow2 (53 + s) := by omega
        have := (log2_lt_iff none).2 fits
        unfold excessBits
        omega
    have last : pow2 (excessBits (q + r)) ≤ pow2 s := Nat.pow_le_pow_right (by decide) few
    omega
  · -- the last place is so great that what is added is rounded off
    rw [excessBits_of_pow_le high bound] at divides
    obtain ⟨k, rfl⟩ := divides
    have parts : pow2 (53 + s) = pow2 s * pow2 53 := by rw [pow2_add, Nat.mul_comm]
    have more : k + 1 ≤ pow2 53 := Nat.lt_of_mul_lt_mul_left (parts ▸ bound)
    have fits : pow2 s * k + r < pow2 (53 + s) := by
      have := Nat.mul_le_mul_left (pow2 s) more
      rw [Nat.mul_succ, ← parts] at this
      omega
    have same : excessBits (pow2 s * k + r) = s :=
      excessBits_of_pow_le (Nat.le_trans high (Nat.le_add_right _ _)) fits
    rw [toPrecision_add_eq (by rw [same]; exact Nat.dvd_mul_right _ _) (by rwa [same])]
    exact bound

theorem unitsPerOne_eq : unitsPerOne = pow2 1074 := rfl

namespace Binary64

structure Holds (n : Int) : Prop where
  exact : toPrecision (n.natAbs * unitsPerOne) 1 = n.natAbs * unitsPerOne
  bounded : n.natAbs * unitsPerOne < magnitudeLimit

theorem holds_of_le {n : Int} (small : n.natAbs ≤ pow2 53) : Holds n := by
  have top : n.natAbs * unitsPerOne ≤ pow2 1127 := by
    have whole : pow2 53 * unitsPerOne = pow2 1127 := by rw [unitsPerOne_eq, ← pow2_add]
    rw [← whole]
    exact Nat.mul_le_mul_right _ small
  refine ⟨(toPrecision_eq_self_iff _).2 ?_, Nat.lt_of_le_of_lt top (pow2_lt (by decide))⟩
  rcases Nat.eq_or_lt_of_le top with largest | below
  · have excess : excessBits (pow2 1127) = 1075 := by
      rw [excessBits, log2_eq (Nat.le_refl _) (pow2_lt (Nat.lt_succ_self _))]
    rw [largest, excess]
    exact pow2_dvd (by decide)
  · by_cases none : n.natAbs * unitsPerOne = 0
    · rw [none]
      exact Nat.dvd_zero _
    · have := (log2_lt_iff none).2 below
      have few : excessBits (n.natAbs * unitsPerOne) ≤ 1074 := by
        unfold excessBits
        omega
      exact Nat.dvd_trans (pow2_dvd few) (Nat.dvd_mul_left _ _)

theorem natAbs_signed (negative : Bool) (k : Nat) : (signed negative k).natAbs = k := by
  cases negative <;> simp [signed]

/-- The whole units of a magnitude have the same leading bits, and the same zeros below. -/
theorem exact_whole (m : Magnitude) :
    toPrecision (m.units / unitsPerOne * unitsPerOne) 1 = m.units / unitsPerOne * unitsPerOne := by
  rw [toPrecision_eq_self_iff, unitsPerOne_eq]
  have divides := (toPrecision_eq_self_iff m.units).1 m.exact
  rcases Nat.eq_zero_or_pos (m.units / pow2 1074) with none | some
  · rw [none, Nat.zero_mul]
    exact Nat.dvd_zero _
  · have below : m.units / pow2 1074 * pow2 1074 ≤ m.units := Nat.div_mul_le_self _ _
    have large : pow2 1074 ≤ m.units := Nat.le_of_not_lt fun small => by
      rw [Nat.div_eq_of_lt small] at some
      cases some
    have hm : m.units ≠ 0 := by
      have := pow2_pos 1074
      omega
    have enough : 1074 ≤ m.units.log2 := (le_log2_iff hm).2 large
    have low : pow2 m.units.log2 ≤ m.units / pow2 1074 * pow2 1074 := by
      have split : pow2 m.units.log2 = pow2 (m.units.log2 - 1074) * pow2 1074 := by
        rw [← pow2_add, Nat.sub_add_cancel enough]
      rw [split]
      refine Nat.mul_le_mul_right _ ((Nat.le_div_iff_mul_le (pow2_pos _)).2 ?_)
      rw [← split]
      exact Nat.log2_self_le hm
    have same : (m.units / pow2 1074 * pow2 1074).log2 = m.units.log2 :=
      log2_eq low (Nat.lt_of_le_of_lt below Nat.lt_log2_self)
    have excess : excessBits (m.units / pow2 1074 * pow2 1074) = excessBits m.units := by
      unfold excessBits
      rw [same]
    rw [excess]
    rcases Nat.le_total (excessBits m.units) 1074 with few | many
    · exact Nat.dvd_trans (pow2_dvd few) (Nat.dvd_mul_left _ _)
    · rwa [Nat.div_mul_cancel (Nat.dvd_trans (pow2_dvd many) divides)]

/-- Cutting off a fraction leaves an integer that is held exactly. -/
theorem holds_of_truncate {x : Binary64} {n : Int} (h : x.truncate = .ok n) : Holds n := by
  cases x with
  | nan => cases h
  | infinite negative => cases h
  | finite negative m =>
    obtain rfl : signed negative (m.units / unitsPerOne) = n := Except.ok.inj h
    constructor
    · rw [natAbs_signed]
      exact exact_whole m
    · rw [natAbs_signed]
      exact Nat.lt_of_le_of_lt (Nat.div_mul_le_self _ _) m.bounded

theorem toInteger_finite (f : Nat → Nat) {x : Binary64} (h : x.isFinite = true) : ∃ n, x.toInteger f = .ok n := by
  cases x with
  | nan => cases h
  | infinite negative => cases h
  | finite negative m => exact ⟨_, rfl⟩

theorem truncate_finite {x : Binary64} (h : x.isFinite = true) : ∃ n, x.truncate = .ok n := toInteger_finite _ h

theorem round_finite {x : Binary64} (h : x.isFinite = true) : ∃ n, x.round = .ok n := toInteger_finite _ h

theorem isFinite_ofUnits {negative : Bool} {n d : Nat} (h : toPrecision n d < magnitudeLimit) :
    (ofUnits negative n d).isFinite = true := by
  rw [ofUnits, dif_pos h]
  rfl

theorem finite_add_finite (negative : Bool) (a b : Magnitude) :
    finite negative a + finite negative b = ofUnits negative (a.units + b.units) 1 := by
  change add _ _ = _
  unfold add
  dsimp only
  rw [if_pos rfl]

theorem zero_eq : ∃ m : Magnitude, zero = .finite false m ∧ m.units = 0 :=
  ⟨⟨0, rfl, pow2_pos _⟩, by decide +kernel, rfl⟩

theorem half_eq : ∃ m : Magnitude, half = .finite false m ∧ m.units = pow2 1073 := by
  have units : half.units? = some (pow2 1073 : Int) := by decide +kernel
  cases h : half with
  | nan | infinite =>
    rw [h] at units
    cases units
  | finite negative m =>
    rw [h] at units
    cases negative with
    | true =>
      have := Option.some.inj units
      have := pow2_pos 1073
      omega
    | false => exact ⟨m, rfl, Int.ofNat.inj (Option.some.inj units)⟩

/-- A finite number and a half have a finite sum. -/
theorem toPrecision_add_half_lt (m : Magnitude) : toPrecision (m.units + pow2 1073) 1 < magnitudeLimit := by
  have small : 2 * pow2 1073 < pow2 2045 := by
    rw [← pow2_succ]
    exact pow2_lt (by decide)
  have limit : magnitudeLimit = pow2 (53 + 2045) := rfl
  have bound := m.bounded
  rw [limit] at bound ⊢
  exact toPrecision_add_lt m.exact bound small

/-- Every finite amount has scroll units. -/
theorem scrollUnits_finite {x : Binary64} (h : x.isFinite = true) : ∃ n, x.scrollUnits = .ok n := by
  have finite : (x.abs + half).isFinite = true := by
    obtain ⟨m, hm, units⟩ := half_eq
    rw [hm]
    cases x with
    | nan => cases h
    | infinite negative => cases h
    | finite negative magnitude =>
      rw [abs, finite_add_finite, units]
      exact isFinite_ofUnits (toPrecision_add_half_lt magnitude)
  obtain ⟨n, hn⟩ := toInteger_finite (· / unitsPerOne) finite
  unfold scrollUnits truncate
  rw [hn]
  exact ⟨_, rfl⟩

variable {n : Int}

theorem Holds.ofInt_eq (h : Holds n) :
    ofInt n = .finite (decide (n < 0)) ⟨n.natAbs * unitsPerOne, h.exact, h.bounded⟩ := by
  unfold ofInt ofRatio ofUnits
  simp only [h.exact]
  exact dif_pos h.bounded

theorem Holds.isFinite (h : Holds n) : (ofInt n).isFinite = true := by
  rw [h.ofInt_eq]
  rfl

theorem Holds.truncate_ofInt (h : Holds n) : (ofInt n).truncate = .ok n := by
  have whole : n.natAbs * unitsPerOne / unitsPerOne = n.natAbs := Nat.mul_div_cancel _ (pow2_pos 1074)
  rw [h.ofInt_eq]
  change Except.ok (signed (decide (n < 0)) (n.natAbs * unitsPerOne / unitsPerOne)) = _
  rw [whole, signed]
  congr 1
  by_cases negative : n < 0
  · rw [decide_eq_true negative, if_pos rfl]
    omega
  · rw [decide_eq_false negative, if_neg Bool.false_ne_true]
    omega

end Binary64

namespace Decimal

/-- The text of an integer: a sign if it is negative, and digits. -/
theorem toList_toString (n : Int) :
    (toString n).toList = (if n < 0 then ['-'] else []) ++ Nat.toDigits 10 n.natAbs := by
  rw [Int.toString_eq_repr, Int.repr_eq_if]
  split
  · next positive =>
    have size : n.toNat = n.natAbs := by omega
    rw [if_neg (by omega), Nat.toList_repr, size]
    rfl
  · next negative =>
    have size : (-n).toNat = n.natAbs := by omega
    rw [if_pos (by omega), String.toList_append, Nat.toList_repr, size]
    rfl

/-- A digit is no sign. -/
theorem takeSign_digits {digits : List Char} (all : ∀ c ∈ digits, c.isDigit = true) :
    takeSign digits = (false, digits) := by
  unfold takeSign
  split
  · exact absurd (all '-' List.mem_cons_self) (by decide)
  · exact absurd (all '+' List.mem_cons_self) (by decide)
  · rfl

/-- Digits after a sign, if there is one, are a whole number. -/
theorem read?_digits {text digits : List Char} {negative : Bool} (sign : takeSign text = (negative, digits))
    (full : digits ≠ []) (all : ∀ c ∈ digits, c.isDigit = true) :
    read? text = some ⟨negative, numeral digits, 0⟩ := by
  have whole : digits.takeWhile Char.isDigit = digits := List.takeWhile_eq_self_iff.2 all
  have rest : digits.dropWhile Char.isDigit = [] := List.dropWhile_eq_nil_iff.2 all
  have passed (h : Decidable (digits ≠ [] ∨ (takeFraction []).1 ≠ [])) :
      @guard Option _ (digits ≠ [] ∨ (takeFraction []).1 ≠ []) h = some () := if_pos (.inl full)
  unfold read?
  rw [sign]
  dsimp only
  rw [whole, rest, passed]
  change some (Decimal.mk negative (numeral (digits ++ [])) _) = _
  rw [List.append_nil]
  rfl

theorem read?_toString (n : Int) :
    read? (toString n).toList = some ⟨decide (n < 0), n.natAbs, 0⟩ := by
  have all : ∀ c ∈ Nat.toDigits 10 n.natAbs, c.isDigit = true :=
    fun _ => Nat.isDigit_of_mem_toDigits (by decide) (by decide)
  have sign : takeSign ((if n < 0 then ['-'] else []) ++ Nat.toDigits 10 n.natAbs) =
      (decide (n < 0), Nat.toDigits 10 n.natAbs) := by
    split
    · next negative => rw [decide_eq_true negative]; rfl
    · next other => rw [decide_eq_false other, List.nil_append, takeSign_digits all]
  rw [toList_toString, read?_digits sign Nat.toDigits_ne_nil all]
  have value : numeral (Nat.toDigits 10 n.natAbs) = n.natAbs := Nat.ofDigitChars_ten_toDigits
  rw [value]

theorem toBinary64_whole (negative : Bool) (n : Nat) :
    (⟨negative, n, 0⟩ : Decimal).toBinary64 = .ofRatio negative n 1 := by
  by_cases zero : n = 0
  · rw [toBinary64, if_pos zero, zero]
  · have small : ¬ (0 : Int) > 400 := by decide
    have near : ¬ (0 : Int) < -(n.log2 + 400 : Int) := by omega
    have scaled : Binary64.ofRatio negative (n * pow10 0) 1 = .ofRatio negative n 1 :=
      congrArg (Binary64.ofRatio negative · 1) (Nat.mul_one n)
    exact (if_neg zero).trans ((if_neg small).trans ((if_neg near).trans scaled))

end Decimal

/-- The text of an integer that is held exactly is read as that integer. -/
theorem Tag.readNumber_whole (tag : Tag) (isCoordinate : Bool) (field : String) {n : Int}
    (h : Binary64.Holds n) :
    tag.readNumber isCoordinate field (toString n).toList = .ok (.ofInt n) := by
  unfold readNumber
  rw [Decimal.read?_toString]
  change (if (Decimal.toBinary64 _).isFinite then Except.ok (Decimal.toBinary64 _) else _) = _
  rw [Decimal.toBinary64_whole]
  exact if_pos h.isFinite

end InputReplay
