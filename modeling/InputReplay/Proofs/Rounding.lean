import InputReplay.Proofs.Overflow
import Mathlib.Algebra.Order.Field.Basic

/-! Rounding keeps order. What is no greater is rounded to no greater, so that a sum grows with each of its terms,
and the order of numbers is that of the units that they count. -/

namespace InputReplay

theorem divNearest_mono {n n' : Nat} (d : Nat) (h : n ≤ n') : divNearest n d ≤ divNearest n' d := by
  rcases Nat.lt_or_eq_of_le (Nat.div_le_div_right (c := d) h) with less | same
  · exact Nat.le_trans (divNearest_le n d) (Nat.le_trans less (le_divNearest n' d))
  · have rest : n % d ≤ n' % d := by
      have parts := Nat.div_add_mod n d
      have parts' := Nat.div_add_mod n' d
      rw [same] at parts
      omega
    unfold divNearest
    rw [same]
    split <;> split <;> omega

theorem excessBits_mono {q q' : Nat} (h : q ≤ q') : excessBits q ≤ excessBits q' := by
  unfold excessBits
  by_cases none : q = 0
  · rw [none, Nat.log2_zero]
    omega
  · have some : q' ≠ 0 := by omega
    have := (le_log2_iff some).2 (Nat.le_trans (Nat.log2_self_le none) h)
    omega

theorem toPrecision_mono {n n' : Nat} (d : Nat) (h : n ≤ n') : toPrecision n d ≤ toPrecision n' d := by
  have quotients := Nat.div_le_div_right (c := d) h
  rcases Nat.lt_or_eq_of_le (excessBits_mono quotients) with less | same
  · -- a power of two lies between the two
    have some : n' / d ≠ 0 := by
      intro none
      rw [none] at less
      cases less
    have below : n / d < pow2 (n' / d).log2 := by
      by_cases none : n / d = 0
      · rw [none]
        exact pow2_pos _
      · apply (log2_lt_iff none).1
        unfold excessBits at less
        omega
    exact Nat.le_trans (toPrecision_le_pow below) (pow_le_toPrecision (Nat.log2_self_le some))
  · rw [toPrecision, toPrecision, same]
    exact Nat.mul_le_mul_right _ (divNearest_mono _ h)

theorem toPrecision_zero (d : Nat) : toPrecision 0 d = 0 := by
  have none (d : Nat) : divNearest 0 d = 0 := by
    unfold divNearest
    rw [Nat.zero_mod, Nat.zero_div]
    split <;> omega
  rw [toPrecision, none, Nat.zero_mul]

/-- What is held exactly is its own rounding, also as a quotient. -/
theorem toPrecision_mul_self {u d : Nat} (exact : toPrecision u 1 = u) (hd : 0 < d) : toPrecision (u * d) d = u := by
  have divides := (toPrecision_eq_self_iff u).1 exact
  rw [toPrecision, Nat.mul_div_cancel u hd]
  generalize excessBits u = e at divides ⊢
  obtain ⟨k, rfl⟩ := divides
  have scaled : pow2 e * k * d = k * (d * pow2 e) := by rw [Nat.mul_comm (pow2 e), Nat.mul_assoc, Nat.mul_comm d]
  rw [scaled, divNearest_mul_left k (Nat.mul_pos hd (pow2_pos e)), Nat.mul_comm]

/-- Where a count of units is rounded to; the infinities are at the limit of the finite numbers. -/
def roundedUnits (z : Int) : Int := z.sign * (min (toPrecision z.natAbs 1) magnitudeLimit : Nat)

theorem roundedUnits_neg (z : Int) : roundedUnits (-z) = -roundedUnits z := by
  rw [roundedUnits, roundedUnits, Int.sign_neg, Int.natAbs_neg, Int.neg_mul]

theorem roundedUnits_natCast (k : Nat) : roundedUnits k = (min (toPrecision k 1) magnitudeLimit : Nat) := by
  rw [roundedUnits, Int.natAbs_natCast]
  rcases Nat.eq_zero_or_pos k with rfl | positive
  · rw [toPrecision_zero, Nat.zero_min]
    rfl
  · rw [Int.sign_eq_one_of_pos (by omega), Int.one_mul]

theorem roundedUnits_mono {z z' : Int} (h : z ≤ z') : roundedUnits z ≤ roundedUnits z' := by
  have natural {k k' : Nat} (h : k ≤ k') : roundedUnits k ≤ roundedUnits k' := by
    rw [roundedUnits_natCast, roundedUnits_natCast, Int.ofNat_le]
    exact min_le_min_right _ (toPrecision_mono 1 h)
  have nonneg (k : Nat) : 0 ≤ roundedUnits k := by
    rw [roundedUnits_natCast]
    exact Int.natCast_nonneg _
  obtain ⟨k, rfl | rfl⟩ := Int.eq_nat_or_neg z <;> obtain ⟨k', rfl | rfl⟩ := Int.eq_nat_or_neg z'
  · exact natural (by omega)
  · obtain ⟨rfl, rfl⟩ : k = 0 ∧ k' = 0 := by omega
    exact Int.le_refl _
  · rw [roundedUnits_neg]
    exact Int.le_trans (Int.neg_nonpos_of_nonneg (nonneg k)) (nonneg k')
  · rw [roundedUnits_neg, roundedUnits_neg]
    exact Int.neg_le_neg (natural (by omega))

namespace Binary64

/-- The units of a number with their sign. An infinity is at the limit of the finite numbers. -/
def height : Binary64 → Int
  | nan => 0
  | infinite negative => signed negative magnitudeLimit
  | finite negative m => signed negative m.units

def value (x : Binary64) : ℚ := x.height / unitsPerOne

theorem signed_false (k : Nat) : signed false k = k := rfl

theorem signed_true (k : Nat) : signed true k = -k := rfl

theorem signed_neg (negative : Bool) (k : Nat) : signed (!negative) k = -signed negative k := by
  cases negative <;> simp [signed]

theorem height_neg (x : Binary64) : (-x).height = -x.height := by
  cases x with
  | nan => rfl
  | infinite negative => exact signed_neg negative _
  | finite negative m => exact signed_neg negative _

theorem unitsPerOne_pos : (0 : ℚ) < unitsPerOne := by exact_mod_cast pow2_pos 1074

theorem value_le_value_iff {x y : Binary64} : x.value ≤ y.value ↔ x.height ≤ y.height := by
  rw [value, value, div_le_div_iff_of_pos_right unitsPerOne_pos, Int.cast_le]

theorem value_eq_zero_iff {x : Binary64} : x.value = 0 ↔ x.height = 0 := by
  rw [value, div_eq_zero_iff, or_iff_left unitsPerOne_pos.ne', Int.cast_eq_zero]

theorem value_neg_iff {x : Binary64} : x.value < 0 ↔ x.height < 0 := by
  rw [value, div_neg_iff, Int.cast_lt_zero]
  constructor
  · rintro (⟨_, h⟩ | ⟨h, _⟩)
    · exact absurd h unitsPerOne_pos.le.not_gt
    · exact h
  · exact fun h => .inr ⟨h, unitsPerOne_pos⟩

theorem value_eq_intCast_iff {x : Binary64} {k : ℤ} : x.value = k ↔ x.height = k * unitsPerOne := by
  rw [value, div_eq_iff unitsPerOne_pos.ne']
  exact_mod_cast Iff.rfl

theorem value_finite (negative : Bool) (m : Magnitude) :
    (finite negative m).value = (if negative then -1 else 1) * (m.units / unitsPerOne : ℚ) := by
  cases negative with
  | false => rw [value, height, signed_false, Int.cast_natCast, if_neg Bool.false_ne_true, one_mul]
  | true => rw [value, height, signed_true, Int.cast_neg, Int.cast_natCast, if_pos rfl, neg_one_mul, neg_div]

theorem abs_value_finite (negative : Bool) (m : Magnitude) :
    |(finite negative m).value| = (m.units : ℚ) / unitsPerOne := by
  have positive : (0 : ℚ) ≤ m.units / unitsPerOne := div_nonneg (Nat.cast_nonneg _) (Nat.cast_nonneg _)
  rw [value_finite, abs_mul, abs_of_nonneg positive]
  cases negative with
  | false => rw [if_neg Bool.false_ne_true, abs_one, one_mul]
  | true => rw [if_pos rfl, abs_neg, abs_one, one_mul]

theorem height_zero : zero.height = 0 := by
  obtain ⟨m, same, none⟩ := zero_eq
  rw [same, height, none]
  rfl

/-- The infinities are higher than the finite numbers. -/
theorem exists_limit : ∃ limit : Nat, 0 < limit ∧ (∀ negative, (infinite negative).height = signed negative limit) ∧
    ∀ negative m, (finite negative m).height = signed negative m.units ∧ m.units < limit :=
  ⟨magnitudeLimit, pow2_pos 2098, fun _ => rfl, fun _ m => ⟨rfl, m.bounded⟩⟩

/-- The order of numbers is that of their heights. -/
theorem lt_iff_height {x y : Binary64} (hx : x ≠ nan) (hy : y ≠ nan) : x.lt y = true ↔ x.height < y.height := by
  obtain ⟨limit, positive, beyond, within⟩ := exists_limit
  cases x with
  | nan => exact absurd rfl hx
  | infinite s =>
    cases y with
    | nan => exact absurd rfl hy
    | infinite t =>
      rw [beyond, beyond]
      cases s <;> cases t <;> simp [lt, signed]
      omega
    | finite t b =>
      obtain ⟨height, below⟩ := within t b
      rw [beyond, height]
      cases s <;> cases t <;> simp [lt, signed] <;> omega
  | finite s a =>
    obtain ⟨height, below⟩ := within s a
    cases y with
    | nan => exact absurd rfl hy
    | infinite t =>
      rw [beyond, height]
      cases s <;> cases t <;> simp [lt, signed] <;> omega
    | finite t b =>
      rw [height, (within t b).1]
      exact decide_eq_true_iff

/-- Numbers are equal in value just if their heights are the same. -/
theorem eqv_iff_height {x y : Binary64} (hx : x ≠ nan) (hy : y ≠ nan) : x.eqv y = true ↔ x.height = y.height := by
  obtain ⟨limit, positive, beyond, within⟩ := exists_limit
  cases x with
  | nan => exact absurd rfl hx
  | infinite s =>
    cases y with
    | nan => exact absurd rfl hy
    | infinite t =>
      rw [beyond, beyond]
      cases s <;> cases t <;> simp [eqv, signed] <;> omega
    | finite t b =>
      obtain ⟨height, below⟩ := within t b
      rw [beyond, height]
      cases s <;> cases t <;> simp [eqv, signed] <;> omega
  | finite s a =>
    obtain ⟨height, below⟩ := within s a
    cases y with
    | nan => exact absurd rfl hy
    | infinite t =>
      rw [beyond, height]
      cases s <;> cases t <;> simp [eqv, signed] <;> omega
    | finite t b =>
      rw [height, (within t b).1]
      cases s <;> cases t <;> simp [eqv, signed] <;> omega

theorem le_iff_height {x y : Binary64} (hx : x ≠ nan) (hy : y ≠ nan) : x.le y = true ↔ x.height ≤ y.height := by
  rw [le, Bool.or_eq_true, lt_iff_height hx hy, eqv_iff_height hx hy]
  omega

theorem roundedUnits_signed (negative : Bool) (k : Nat) :
    roundedUnits (signed negative k) = signed negative (min (toPrecision k 1) magnitudeLimit) := by
  cases negative with
  | false => exact roundedUnits_natCast k
  | true => exact (roundedUnits_neg k).trans (congrArg Neg.neg (roundedUnits_natCast k))

theorem roundedUnits_of_exact {z : Int} (exact : toPrecision z.natAbs 1 = z.natAbs)
    (bounded : z.natAbs < magnitudeLimit) : roundedUnits z = z := by
  rw [roundedUnits, exact, min_eq_left (Nat.le_of_lt bounded), Int.sign_mul_natAbs]

/-- A finite number is its own rounding. -/
theorem roundedUnits_height {x : Binary64} (h : x.isFinite = true) : roundedUnits x.height = x.height := by
  cases x with
  | nan | infinite => cases h
  | finite negative m => rw [height, roundedUnits_signed, m.exact, min_eq_left (Nat.le_of_lt m.bounded)]

theorem height_ofUnits (negative : Bool) (n d : Nat) :
    (ofUnits negative n d).height = signed negative (min (toPrecision n d) magnitudeLimit) := by
  unfold ofUnits
  split
  · next held => rw [height, min_eq_left (Nat.le_of_lt held)]
  · next beyond => rw [height, min_eq_right (Nat.le_of_not_lt beyond)]

theorem ofUnits_ne_nan (negative : Bool) (n d : Nat) : ofUnits negative n d ≠ nan := by
  unfold ofUnits
  split <;> simp

/-- A sum is the exact one, rounded. -/
theorem add_finite {x y : Binary64} (hx : x.isFinite = true) (hy : y.isFinite = true) :
    x + y ≠ nan ∧ (x + y).height = roundedUnits (x.height + y.height) := by
  cases x with
  | nan | infinite => cases hx
  | finite s a =>
    cases y with
    | nan | infinite => cases hy
    | finite t b =>
      change add _ _ ≠ _ ∧ (add _ _).height = roundedUnits (signed s a.units + signed t b.units)
      unfold add
      dsimp only
      by_cases same : s = t
      · have sum : signed s a.units + signed t b.units = signed s (a.units + b.units) := by
          cases s <;> cases t <;> simp_all [signed]
          omega
        rw [if_pos same, sum, roundedUnits_signed]
        exact ⟨ofUnits_ne_nan _ _ _, height_ofUnits _ _ _⟩
      · rw [if_neg same]
        rcases Nat.lt_trichotomy b.units a.units with less | equal | more
        · have sum : signed s a.units + signed t b.units = signed s (a.units - b.units) := by
            cases s <;> cases t <;> simp_all [signed] <;> omega
          rw [if_pos less, sum, roundedUnits_signed]
          exact ⟨ofUnits_ne_nan _ _ _, height_ofUnits _ _ _⟩
        · have sum : signed s a.units + signed t b.units = 0 := by
            cases s <;> cases t <;> simp_all [signed]
          obtain ⟨m, still, -⟩ := zero_eq
          rw [if_neg (by omega), if_neg (by omega), sum, height_zero, roundedUnits, Int.sign_zero, Int.zero_mul]
          exact ⟨by rw [still]; simp, rfl⟩
        · have sum : signed s a.units + signed t b.units = signed t (b.units - a.units) := by
            cases s <;> cases t <;> simp_all [signed] <;> omega
          rw [if_neg (by omega), if_pos more, sum, roundedUnits_signed]
          exact ⟨ofUnits_ne_nan _ _ _, height_ofUnits _ _ _⟩

theorem isFinite_neg (x : Binary64) : (-x).isFinite = x.isFinite := by
  cases x <;> rfl

theorem sub_finite {x y : Binary64} (hx : x.isFinite = true) (hy : y.isFinite = true) :
    x - y ≠ nan ∧ (x - y).height = roundedUnits (x.height - y.height) := by
  have sum := add_finite hx (y := -y) (by rwa [isFinite_neg])
  rw [height_neg] at sum
  exact sum

theorem ne_nan_of_isFinite {x : Binary64} (h : x.isFinite = true) : x ≠ nan := by
  rintro rfl
  cases h

/-- What is below the limit is finite. -/
theorem isFinite_of_height_lt {x : Binary64} (number : x ≠ nan) (h : x.height.natAbs < magnitudeLimit) :
    x.isFinite = true := by
  cases x with
  | nan => exact absurd rfl number
  | infinite negative =>
    rw [height, natAbs_signed] at h
    exact absurd h (Nat.lt_irrefl _)
  | finite => rfl

end Binary64

end InputReplay
