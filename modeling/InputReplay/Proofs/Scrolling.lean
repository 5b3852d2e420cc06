import InputReplay.Proofs.Rounding
import Mathlib.Algebra.Order.Round
import Mathlib.Data.Rat.Floor

/-! Whole scroll units. An amount is rounded to the nearest integer by the floor of its sum with a half, which is
rounded itself. The sum is off only where the integers are the last place: there a half more than an odd integer
goes to the even one above. Everywhere else the nearest integer comes out, a half going away from zero. -/

namespace InputReplay

/-- A number of 53 bits that is no less than `2 ^ 52` has a last place, of which it is a multiple. -/
theorem exists_lastPlace {u : Nat} (exact : toPrecision u 1 = u) (large : pow2 52 ≤ u) :
    ∃ e, pow2 (52 + e) ≤ u ∧ u + pow2 e ≤ pow2 (53 + e) ∧ pow2 e ∣ u := by
  have some : u ≠ 0 := by
    have := pow2_pos 52
    omega
  have enough : 52 ≤ u.log2 := (le_log2_iff some).2 large
  have divides := (toPrecision_eq_self_iff u).1 exact
  have low : pow2 (52 + excessBits u) ≤ u := (le_log2_iff some).1 (by unfold excessBits; omega)
  have high : u < pow2 (53 + excessBits u) := (log2_lt_iff some).1 (by unfold excessBits; omega)
  refine ⟨excessBits u, low, ?_, divides⟩
  have multiple : pow2 (excessBits u) ∣ pow2 (53 + excessBits u) := pow2_dvd (Nat.le_add_left _ _)
  exact Nat.le_of_lt_add_of_dvd (Nat.add_lt_add_right high _) ((Nat.dvd_add_right divides).2 (Nat.dvd_refl _)) multiple

theorem lt_of_pow2_lt {m n : Nat} (h : pow2 m < pow2 n) : m < n := (Nat.pow_lt_pow_iff_right (by decide)).1 h

theorem exact_of_dvd {u e : Nat} (low : pow2 (52 + e) ≤ u) (high : u < pow2 (53 + e)) (divides : pow2 e ∣ u) :
    toPrecision u 1 = u := by
  rw [toPrecision_eq_self_iff, excessBits_of_pow_le low high]
  exact divides

theorem div_eq_of_between {a b d : Nat} (divides : d ∣ b) (low : b ≤ a) (high : a < b + d) : a / d = b / d := by
  obtain ⟨k, rfl⟩ := divides
  have positive : 0 < d := by omega
  rw [Nat.mul_div_cancel_left k positive]
  refine Nat.div_eq_of_lt_le ?_ ?_
  · rwa [Nat.mul_comm]
  · rwa [Nat.mul_comm, Nat.mul_succ]

section
variable {u e h : Nat}

/-! Sums of units `u` with the half `2 ^ h` of a whole `2 ^ (h + 1)`. -/

/-- Where a half is a multiple of the last place, the sum keeps its whole part. -/
theorem whole_add_half_low (few : e ≤ h) (least : pow2 h ≤ u) (low : pow2 (52 + e) ≤ u)
    (high : u + pow2 e ≤ pow2 (53 + e)) (divides : pow2 e ∣ u) :
    toPrecision (u + pow2 h) 1 / pow2 (h + 1) = (u + pow2 h) / pow2 (h + 1) := by
  have half : pow2 e ∣ pow2 h := pow2_dvd few
  have place := pow2_pos e
  have one := pow2_succ h
  rcases Nat.lt_or_ge (u + pow2 h) (pow2 (53 + e)) with below | carried
  · rw [exact_of_dvd (by omega) below (Nat.dvd_add divides half)]
  · -- the sum passes a power of two, and what is left above it is no more than a half
    have exponent : h < 53 + e := lt_of_pow2_lt (by omega)
    have whole : pow2 (h + 1) ∣ pow2 (53 + e) := pow2_dvd exponent
    have small : pow2 h < pow2 (53 + e) := pow2_lt exponent
    have parts : 53 + e = 52 + (e + 1) := by omega
    have double : pow2 (53 + (e + 1)) = 2 * pow2 (53 + e) := pow2_succ (53 + e)
    have most : toPrecision (u + pow2 h) 1 ≤ pow2 (53 + e) + pow2 h := by
      rcases Nat.eq_or_lt_of_le few with rfl | fewer
      · have top : u + pow2 e = pow2 (53 + e) := by omega
        have held : toPrecision (pow2 (53 + e)) 1 = pow2 (53 + e) :=
          exact_of_dvd (Nat.le_of_eq (congrArg pow2 parts.symm)) (by omega) (pow2_dvd (by omega))
        rw [top, held]
        exact Nat.le_add_right _ _
      · have held : toPrecision (pow2 (53 + e) + pow2 h) 1 = pow2 (53 + e) + pow2 h := by
          refine exact_of_dvd (e := e + 1) ?_ (by omega) (Nat.dvd_add (pow2_dvd (by omega)) (pow2_dvd fewer))
          rw [parts]
          exact Nat.le_add_right _ _
        exact held ▸ toPrecision_mono 1 (by omega)
    have least' : pow2 (53 + e) ≤ toPrecision (u + pow2 h) 1 := pow_le_toPrecision (by rwa [Nat.div_one])
    rw [div_eq_of_between whole least' (by omega), div_eq_of_between whole carried (by omega)]

/-- Where the whole is the last place, the sum is in the middle of two multiples and goes to the even one. -/
theorem whole_add_half_middle (low : pow2 (52 + (h + 1)) ≤ u) (high : u + pow2 (h + 1) ≤ pow2 (53 + (h + 1)))
    (divides : pow2 (h + 1) ∣ u) :
    toPrecision (u + pow2 h) 1 / pow2 (h + 1) = u / pow2 (h + 1) + u / pow2 (h + 1) % 2 := by
  have one := pow2_succ h
  have positive := pow2_pos h
  have last : excessBits (u + pow2 h) = h + 1 := excessBits_of_pow_le (by omega) (by omega)
  rw [toPrecision, Nat.div_one, Nat.one_mul, last, Nat.mul_div_cancel _ (pow2_pos (h + 1))]
  generalize pow2 (h + 1) = d at one divides ⊢
  obtain ⟨k, rfl⟩ := divides
  have rest : (d * k + pow2 h) % d = pow2 h := by
    rw [Nat.mul_add_mod, Nat.mod_eq_of_lt (by omega)]
  have whole : (d * k + pow2 h) / d = k := by
    rw [Nat.mul_add_div (by omega), Nat.div_eq_of_lt (by omega), Nat.add_zero]
  rw [divNearest, rest, whole, Nat.mul_div_cancel_left k (by omega)]
  split <;> omega

/-- Where the last place is more than the whole, a half is rounded off. -/
theorem whole_add_half_high (many : h + 1 < e) (low : pow2 (52 + e) ≤ u) (high : u + pow2 e ≤ pow2 (53 + e))
    (divides : pow2 e ∣ u) : toPrecision (u + pow2 h) 1 = u := by
  have small : 2 * pow2 h < pow2 e := by
    rw [← pow2_succ]
    exact pow2_lt many
  have last : excessBits (u + pow2 h) = e := excessBits_of_pow_le (by omega) (by omega)
  exact toPrecision_add_eq (by rwa [last]) (by rwa [last])

/-- A count of units that is an odd number of wholes, and a number of 53 bits of them. -/
structure IsLongOddCount (h u : Nat) : Prop where
  whole : pow2 (h + 1) ∣ u
  odd : u / pow2 (h + 1) % 2 = 1
  least : pow2 52 ≤ u / pow2 (h + 1)
  most : u / pow2 (h + 1) < pow2 53

/-- The whole part of a sum with a half is that of the exact sum, or one more for a long odd number. -/
theorem whole_add_half (exact : toPrecision u 1 = u) (enough : 52 ≤ h) (least : pow2 h ≤ u) :
    (¬ IsLongOddCount h u → toPrecision (u + pow2 h) 1 / pow2 (h + 1) = (u + pow2 h) / pow2 (h + 1)) ∧
    (IsLongOddCount h u → toPrecision (u + pow2 h) 1 / pow2 (h + 1) = u / pow2 (h + 1) + 1) := by
  obtain ⟨e, low, high, divides⟩ := exists_lastPlace exact
    (Nat.le_trans (Nat.pow_le_pow_right (by decide) enough) least)
  have one := pow2_succ h
  have positive := pow2_pos h
  have place := pow2_pos e
  -- the last place of the amount is less than a whole, a whole, or more
  rcases Nat.lt_trichotomy e (h + 1) with few | rfl | many
  · refine ⟨fun _ => whole_add_half_low (by omega) least low high divides, fun long => ?_⟩
    have large := (Nat.le_div_iff_mul_le (pow2_pos (h + 1))).1 long.least
    have bound : pow2 (53 + e) ≤ pow2 52 * pow2 (h + 1) := by
      rw [← pow2_add]
      exact Nat.pow_le_pow_right (by decide) (by omega)
    omega
  · rw [whole_add_half_middle low high divides]
    have whole : (u + pow2 h) / pow2 (h + 1) = u / pow2 (h + 1) :=
      div_eq_of_between divides (Nat.le_add_right _ _) (by omega)
    refine ⟨fun short => ?_, fun long => by rw [long.odd]⟩
    have even : u / pow2 (h + 1) % 2 = 0 := by
      refine (Nat.mod_two_eq_zero_or_one _).resolve_right fun odd => short ⟨divides, odd, ?_, ?_⟩
      · rwa [Nat.le_div_iff_mul_le (pow2_pos _), ← pow2_add]
      · rw [Nat.div_lt_iff_lt_mul (pow2_pos _), ← pow2_add]
        omega
    rw [even, whole, Nat.add_zero]
  · have whole : pow2 (h + 1) ∣ u := Nat.dvd_trans (pow2_dvd (by omega)) divides
    rw [whole_add_half_high many low high divides]
    refine ⟨fun _ => (div_eq_of_between whole (Nat.le_add_right _ _) (by omega)).symm, fun long => ?_⟩
    have large : pow2 53 * pow2 (h + 1) ≤ u := by
      rw [← pow2_add]
      exact Nat.le_trans (Nat.pow_le_pow_right (by decide) (by omega)) low
    exact absurd long.most (Nat.not_lt_of_le ((Nat.le_div_iff_mul_le (pow2_pos _)).2 large))

end

/-- The whole scroll units of a magnitude. -/
def Magnitude.scrolled (m : Magnitude) : Nat :=
  if m.units = 0 then 0 else max 1 (toPrecision (m.units + pow2 1073) 1 / unitsPerOne)

theorem Magnitude.scrolled_mono {m m' : Magnitude} (h : m.units ≤ m'.units) : m.scrolled ≤ m'.scrolled := by
  have grows := Nat.div_le_div_right (c := unitsPerOne) (toPrecision_mono 1 (Nat.add_le_add_right h (pow2 1073)))
  unfold scrolled
  split <;> split <;> omega

/-- Whole units for an exact amount: the nearest integer, a half going away from zero, but at least one unit unless
the amount is zero. -/
def nearestUnits (d : ℚ) : ℤ :=
  if d = 0 then 0 else if d < 0 then -max 1 (round |d|) else max 1 (round |d|)

/-- An odd integer of exactly 53 bits. -/
def IsLongOdd (d : ℚ) : Prop := ∃ k : ℤ, d = k ∧ Odd k ∧ 2 ^ 52 ≤ |k| ∧ |k| < 2 ^ 53

namespace Binary64

theorem isZero_iff {x : Binary64} (h : x ≠ nan) : x.isZero = true ↔ x.height = 0 := by
  obtain ⟨m, same, -⟩ := zero_eq
  rw [isZero, eqv_iff_height h (by rw [same]; simp), height_zero]

theorem lt_zero_iff {x : Binary64} (h : x ≠ nan) : x.lt zero = true ↔ x.height < 0 := by
  obtain ⟨m, same, -⟩ := zero_eq
  rw [lt_iff_height h (by rw [same]; simp), height_zero]

/-- The scroll units of a finite amount are those of its magnitude, with its sign. -/
theorem scrollUnits_eq (negative : Bool) (m : Magnitude) :
    (finite negative m).scrollUnits = .ok (signed negative m.scrolled) := by
  obtain ⟨h, same, units⟩ := half_eq
  have sum : (finite negative m).abs + half = finite false ⟨toPrecision (m.units + pow2 1073) 1,
      toPrecision_toPrecision _ 1, toPrecision_add_half_lt m⟩ := by
    rw [abs, same, finite_add_finite, units]
    exact dif_pos (toPrecision_add_half_lt m)
  have whole : truncate ((finite negative m).abs + half) =
      .ok ((toPrecision (m.units + pow2 1073) 1 / unitsPerOne : Nat) : Int) := by
    rw [sum]
    rfl
  have still : (finite negative m).isZero = true ↔ m.units = 0 := by
    rw [isZero_iff (by simp)]
    cases negative <;> simp [height, signed]
  have down : (finite negative m).lt zero = true ↔ negative = true ∧ m.units ≠ 0 := by
    rw [lt_zero_iff (by simp)]
    cases negative <;> simp [height, signed]
    omega
  have nothing : m.units = 0 → toPrecision (m.units + pow2 1073) 1 / unitsPerOne = 0 := by
    intro none
    rw [none, Nat.zero_add, ← units, h.exact, units]
    exact Nat.div_eq_of_lt (pow2_lt (Nat.lt_succ_self 1073))
  obtain ⟨k, hk⟩ : ∃ k, toPrecision (m.units + pow2 1073) 1 / unitsPerOne = k := ⟨_, rfl⟩
  rw [hk] at whole nothing
  unfold scrollUnits Magnitude.scrolled
  rw [whole, hk]
  simp only [bind, Except.bind, pure, Except.pure, still, down]
  refine congrArg Except.ok ?_
  by_cases none : m.units = 0
  · rw [nothing none]
    cases negative <;> simp [none, signed]
  · cases negative <;> simp [none, signed] <;> split <;> omega

/-- A greater amount scrolls no less far. -/
theorem signed_scrolled_mono {negative negative' : Bool} {m m' : Magnitude}
    (h : (finite negative m).height ≤ (finite negative' m').height) :
    signed negative m.scrolled ≤ signed negative' m'.scrolled := by
  have up : m.units ≤ m'.units → m.scrolled ≤ m'.scrolled := Magnitude.scrolled_mono
  have down : m'.units ≤ m.units → m'.scrolled ≤ m.scrolled := Magnitude.scrolled_mono
  have none : m.units = 0 → m.scrolled = 0 := fun none => if_pos none
  have none' : m'.units = 0 → m'.scrolled = 0 := fun none => if_pos none
  cases negative <;> cases negative' <;> simp only [height, signed] at h ⊢ <;> simp at h ⊢ <;> omega

end Binary64

/-- The nearest integer to a count of units is the whole part of its sum with a half. -/
theorem round_units (u : Nat) : round ((u : ℚ) / unitsPerOne) = ((u + pow2 1073) / unitsPerOne : Nat) := by
  have one : (unitsPerOne : ℚ) = 2 * pow2 1073 := by exact_mod_cast pow2_succ 1073
  have half : (1 / 2 : ℚ) = pow2 1073 / unitsPerOne := by
    have some : (pow2 1073 : ℚ) ≠ 0 := by exact_mod_cast (pow2_pos 1073).ne'
    rw [one]
    field_simp
  rw [round_eq, half, ← add_div, ← Nat.cast_add, ← Int.cast_natCast (u + pow2 1073), Rat.floor_intCast_div_natCast]
  rfl

namespace Magnitude

theorem scrolled_eq_of_short (m : Magnitude) (some : m.units ≠ 0) (short : ¬ IsLongOddCount 1073 m.units) :
    m.scrolled = max 1 ((m.units + pow2 1073) / unitsPerOne) := by
  rw [scrolled, if_neg some]
  rcases Nat.lt_or_ge m.units (pow2 1073) with little | least
  · -- less than a half: neither the sum nor its rounding is more than one
    have one : 2 * pow2 1073 = unitsPerOne := (pow2_succ 1073).symm
    have below : m.units + pow2 1073 < unitsPerOne := by omega
    have most : toPrecision (m.units + pow2 1073) 1 ≤ 1 * unitsPerOne := by
      rw [Nat.one_mul]
      exact toPrecision_le_pow (by rwa [Nat.div_one])
    rw [Nat.div_eq_of_lt below, max_eq_left (Nat.div_le_of_le_mul (by rwa [Nat.mul_comm])), max_eq_left (Nat.zero_le 1)]
  · rw [unitsPerOne_eq, (whole_add_half m.exact (by decide) least).1 short]

theorem scrolled_eq_of_long (m : Magnitude) (long : IsLongOddCount 1073 m.units) :
    m.scrolled = m.units / unitsPerOne + 1 := by
  have large := (Nat.le_div_iff_mul_le (pow2_pos (1073 + 1))).1 long.least
  have least : pow2 1073 ≤ m.units := by
    refine Nat.le_trans ?_ large
    rw [← pow2_add]
    exact Nat.le_of_lt (pow2_lt (by decide))
  have some : m.units ≠ 0 := by
    have := pow2_pos 1073
    omega
  rw [scrolled, if_neg some, unitsPerOne_eq, (whole_add_half m.exact (by decide) least).2 long]
  exact max_eq_right (Nat.le_add_left 1 _)

end Magnitude

theorem nearestUnits_intCast (k : ℤ) : nearestUnits k = k := by
  unfold nearestUnits
  rw [← Int.cast_abs, round_intCast]
  simp only [Int.cast_eq_zero, Int.cast_lt_zero]
  rcases lt_trichotomy k 0 with down | rfl | up
  · rw [if_neg down.ne, if_pos down, abs_of_neg down, max_eq_right (by omega), neg_neg]
  · exact if_pos rfl
  · rw [if_neg up.ne', if_neg up.not_gt, abs_of_pos up, max_eq_right (by omega)]

namespace Binary64

theorem nearestUnits_value (negative : Bool) (m : Magnitude) :
    nearestUnits (finite negative m).value =
      signed negative (if m.units = 0 then 0 else max 1 ((m.units + pow2 1073) / unitsPerOne)) := by
  have nonneg := Int.natCast_nonneg m.units
  unfold nearestUnits
  rw [abs_value_finite, round_units]
  simp only [value_eq_zero_iff, value_neg_iff]
  generalize (m.units + pow2 1073) / unitsPerOne = k
  by_cases none : m.units = 0
  · cases negative <;> simp [height, signed, none]
  · cases negative <;> simp [height, signed, none]

/-- An amount that is an integer is that many wholes, with its sign. -/
theorem units_of_value_eq {negative : Bool} {m : Magnitude} {k : ℤ} (whole : (finite negative m).value = k) :
    m.units / unitsPerOne = k.natAbs ∧ unitsPerOne ∣ m.units ∧ signed negative k.natAbs = k := by
  have size : (finite negative m).height.natAbs = m.units := natAbs_signed negative m.units
  have units : m.units = k.natAbs * unitsPerOne := by
    rw [← size, value_eq_intCast_iff.1 whole, Int.natAbs_mul, Int.natAbs_natCast]
  have one : 0 < unitsPerOne := pow2_pos 1074
  refine ⟨by rw [units, Nat.mul_div_cancel _ one], by rw [units]; exact Nat.dvd_mul_left _ _, ?_⟩
  have positive : (0 : ℚ) ≤ m.units / unitsPerOne := div_nonneg (Nat.cast_nonneg _) (Nat.cast_nonneg _)
  rw [value_finite] at whole
  cases negative with
  | false =>
    rw [if_neg Bool.false_ne_true, one_mul] at whole
    have up : (0 : ℚ) ≤ k := by rwa [← whole]
    have up' : 0 ≤ k := by exact_mod_cast up
    exact Int.natAbs_of_nonneg up'
  | true =>
    rw [if_pos rfl, neg_one_mul] at whole
    have down : (k : ℚ) ≤ 0 := by rwa [← whole, neg_nonpos]
    have down' : k ≤ 0 := by exact_mod_cast down
    exact neg_eq_iff_eq_neg.2 (Int.ofNat_natAbs_of_nonpos down')

/-- An amount is a long odd integer just if its units are counted so. -/
theorem isLongOdd_value_iff (negative : Bool) (m : Magnitude) :
    IsLongOdd (finite negative m).value ↔ IsLongOddCount 1073 m.units := by
  have one : unitsPerOne = pow2 (1073 + 1) := rfl
  constructor
  · rintro ⟨k, whole, odd, least, most⟩
    obtain ⟨quotient, multiple, -⟩ := units_of_value_eq whole
    rw [one] at quotient multiple
    rw [Int.abs_eq_natAbs] at least most
    refine ⟨multiple, ?_, ?_, ?_⟩ <;> rw [quotient]
    · exact Nat.odd_iff.1 (Int.natAbs_odd.2 odd)
    · exact Int.ofNat_le.1 least
    · exact Int.ofNat_lt.1 most
  · intro long
    have size' := natAbs_signed negative (m.units / pow2 (1073 + 1))
    refine ⟨signed negative (m.units / pow2 (1073 + 1)), ?_, ?_, ?_, ?_⟩
    · rw [value_eq_intCast_iff, one]
      have units : (m.units : Int) = (m.units / pow2 (1073 + 1) : Nat) * (pow2 (1073 + 1) : Nat) := by
        rw [← Int.natCast_mul, Nat.div_mul_cancel long.whole]
      cases negative with
      | false => exact units
      | true => exact (congrArg Neg.neg units).trans (Int.neg_mul _ _).symm
    · rw [← Int.natAbs_odd, size']
      exact Nat.odd_iff.2 long.odd
    · rw [Int.abs_eq_natAbs, size']
      exact Int.ofNat_le.2 long.least
    · rw [Int.abs_eq_natAbs, size']
      exact Int.ofNat_lt.2 long.most

/-- A finite amount is scrolled by the nearest integer, a half going away from zero, and by one unit at least unless
it is zero; but an odd integer of exactly 53 bits is scrolled by one unit more. So other integers are scrolled as
they are, opposite amounts by opposite units, and a greater amount no less far. -/
theorem scrollUnits_nearest {x : Binary64} (h : x.isFinite = true) :
    ∃ n, x.scrollUnits = .ok n ∧
      (¬ IsLongOdd x.value → n = nearestUnits x.value) ∧
      (∀ k : ℤ, x.value = k → (¬ IsLongOdd k → n = k) ∧ (IsLongOdd k → n = k + k.sign)) ∧
      (-x).scrollUnits = .ok (-n) ∧
      ∀ y : Binary64, y.isFinite = true → x.value ≤ y.value → ∃ k, y.scrollUnits = .ok k ∧ n ≤ k := by
  cases x with
  | nan | infinite => cases h
  | finite negative m =>
    have long := isLongOdd_value_iff negative m
    have nearest : ¬ IsLongOdd (finite negative m).value →
        signed negative m.scrolled = nearestUnits (finite negative m).value := by
      intro short
      rw [nearestUnits_value]
      split
      · next none => rw [Magnitude.scrolled, if_pos none]
      · next some => rw [m.scrolled_eq_of_short some (mt long.2 short)]
    refine ⟨_, scrollUnits_eq negative m, nearest, fun k whole => ?_, ?_, ?_⟩
    · obtain ⟨quotient, -, sign⟩ := units_of_value_eq whole
      rw [whole] at long nearest
      refine ⟨fun short => (nearest short).trans (nearestUnits_intCast k), fun odd => ?_⟩
      rw [m.scrolled_eq_of_long (long.1 odd), quotient]
      have some : k ≠ 0 := by
        rintro rfl
        obtain ⟨j, same, ⟨i, split⟩, -⟩ := odd
        have : 0 = j := by exact_mod_cast same
        omega
      cases negative with
      | false =>
        have up : (k.natAbs : Int) = k := sign
        rw [Int.sign_eq_one_of_pos (by omega)]
        change ((k.natAbs + 1 : Nat) : Int) = k + 1
        omega
      | true =>
        have down : -(k.natAbs : Int) = k := sign
        rw [Int.sign_eq_neg_one_of_neg (by omega)]
        change -((k.natAbs + 1 : Nat) : Int) = k + -1
        omega
    · exact (scrollUnits_eq (!negative) m).trans (congrArg _ (signed_neg negative _))
    · intro y finite' le
      cases y with
      | nan | infinite => cases finite'
      | finite negative' m' => exact ⟨_, scrollUnits_eq negative' m', signed_scrolled_mono (value_le_value_iff.1 le)⟩

/-- A half goes away from zero. -/
theorem scrollUnits_nearest_half :
    (ofRatio true 5 2).isFinite = true ∧ (ofRatio true 5 2).value = -5 / 2 ∧
      (ofRatio true 5 2).scrollUnits = .ok (-3) := by
  have finite : (ofRatio true 5 2).isFinite = true := by decide +kernel
  have units : (ofRatio true 5 2).height * 2 = -5 * unitsPerOne := by decide +kernel
  have value : (ofRatio true 5 2).value = -5 / 2 := by
    rw [Binary64.value, div_eq_div_iff unitsPerOne_pos.ne' two_ne_zero]
    exact_mod_cast units
  have short : ¬ IsLongOdd (-5 / 2) := by
    rintro ⟨k, same, -⟩
    have double : (-5 : ℚ) = 2 * k := by linarith
    have double' : (-5 : ℤ) = 2 * k := by exact_mod_cast double
    omega
  have nearest : nearestUnits (-5 / 2) = -3 := by decide +kernel
  obtain ⟨n, scrolled, away, -⟩ := scrollUnits_nearest finite
  rw [value] at away
  rw [scrolled, away short, nearest]
  exact ⟨finite, value, rfl⟩

/-- The least odd integer of 53 bits is scrolled by the even one above it. -/
theorem scrollUnits_longOdd_carried :
    (ofNat 4503599627370497).isFinite = true ∧ (ofNat 4503599627370497).value = 4503599627370497 ∧
      nearestUnits 4503599627370497 = 4503599627370497 ∧
      (ofNat 4503599627370497).scrollUnits = .ok 4503599627370498 := by
  have units : (ofNat 4503599627370497).height = 4503599627370497 * unitsPerOne := by decide +kernel
  have value : (ofNat 4503599627370497).value = (4503599627370497 : ℤ) := value_eq_intCast_iff.2 units
  exact ⟨by decide +kernel, value, nearestUnits_intCast 4503599627370497, by decide +kernel⟩

end Binary64

end InputReplay
