import InputReplay.Proofs.Desk
import InputReplay.Proofs.Expansion
import InputReplay.Proofs.Rounding

/-! The way of a drag. Between the press at its start and the release at its finish a drag passes as many points as
it has steps, and in each coordinate it never turns back. Where it gets to is its start and the difference from there
to the finish, which is rounded, and so is the sum of the two. So it does not always get to its finish, and may pass
it by; it gets there just if the rounded sum is the finish, as it is where the difference is held exactly. -/

namespace InputReplay

namespace Binary64

/-- How far a drag of `n` steps has come in one coordinate at the `i`-th of them. -/
def along (a b : Binary64) (n i : Nat) : Binary64 := a + (b - a) * ofRatio false i n

def reach (a b : Binary64) : Binary64 := a + (b - a)

/-- A coordinate between two others, whichever of them is the greater. -/
def Between (a x b : Binary64) : Prop := (a.le x = true ∧ x.le b = true) ∨ (b.le x = true ∧ x.le a = true)

/-- Coordinates of which none is less than one before it. -/
def Rising (xs : List Binary64) : Prop := xs.Pairwise (fun x y => x.le y = true)

/-- The difference of two coordinates is held exactly. -/
structure IsExactDifference (a b : Binary64) : Prop where
  finite : (b - a).isFinite = true
  exact : (b - a).value = b.value - a.value

/-- The coordinates of a drag from `a` towards `b`. -/
structure Walk (a b : Binary64) (xs : List Binary64) : Prop where
  /-- They never turn back. -/
  straight : Rising (a :: xs) ∨ Rising (a :: xs).reverse
  last : xs.getLast? = some (reach a b)
  within : ∀ x ∈ xs, Between a x (reach a b)
  /-- They get to the finish without passing it just if the rounded sum is the finish. -/
  arrives : ((∀ x ∈ xs, Between a x b) ∧ ∀ x ∈ xs.getLast?, x.eqv b = true) ↔ (reach a b).eqv b = true
  arrives_of_exact : IsExactDifference a b → (reach a b).eqv b = true

variable {a b x y z : Binary64} {n i j : Nat}

theorem ne_nan_of_le (h : x.le y = true) : x ≠ nan ∧ y ≠ nan := by
  constructor
  · rintro rfl
    simp [le, lt, eqv] at h
  · rintro rfl
    cases x <;> simp [le, lt, eqv] at h

theorem ne_nan_of_eqv (h : x.eqv y = true) : x ≠ nan ∧ y ≠ nan := ne_nan_of_le (by rw [le, h, Bool.or_true])

theorem Between.congr (h : Between a x y) (same : y.eqv b = true) : Between a x b := by
  obtain ⟨hy, hb⟩ := ne_nan_of_eqv same
  have equal := (eqv_iff_height hy hb).1 same
  rcases h with ⟨up, below⟩ | ⟨below, down⟩
  · have hx := (ne_nan_of_le up).2
    exact .inl ⟨up, (le_iff_height hx hb).2 (equal ▸ (le_iff_height hx hy).1 below)⟩
  · have hx := (ne_nan_of_le down).1
    exact .inr ⟨(le_iff_height hb hx).2 (equal ▸ (le_iff_height hy hx).1 below), down⟩

theorem toPrecision_unitsPerOne : toPrecision unitsPerOne 1 = unitsPerOne := by
  rw [toPrecision_eq_self_iff]
  exact pow2_dvd (show excessBits unitsPerOne ≤ 1074 by decide +kernel)

/-- A part of a whole, in as many parts as can be counted, is a number above zero and no greater than one. -/
theorem exists_part (few : (n : ℚ) < overflow) (one : 1 ≤ i) (le : i ≤ n) :
    ∃ t : Magnitude, ofRatio false i n = finite false t ∧ t.units = toPrecision (i * unitsPerOne) n ∧
      0 < t.units ∧ t.units ≤ unitsPerOne := by
  have most : toPrecision (i * unitsPerOne) n ≤ unitsPerOne := by
    have top := toPrecision_mono n (Nat.mul_le_mul_right unitsPerOne le)
    rwa [Nat.mul_comm n, toPrecision_mul_self toPrecision_unitsPerOne (by omega)] at top
  have limit : unitsPerOne < magnitudeLimit := pow2_lt (by decide)
  have bounded : toPrecision (i * unitsPerOne) n < magnitudeLimit := Nat.lt_of_le_of_lt most limit
  have count : n < pow2 1024 := by
    have below : (n : ℚ) < pow2 1024 := by
      rw [cast_pow2]
      exact few.trans (sub_lt_self _ (by positivity))
    exact_mod_cast below
  have room : pow2 1024 < unitsPerOne := pow2_lt (by decide)
  have enough : 1 * n ≤ i * unitsPerOne := Nat.mul_le_mul one (by omega)
  have least : pow2 0 ≤ toPrecision (i * unitsPerOne) n :=
    pow_le_toPrecision ((Nat.le_div_iff_mul_le (by omega)).2 enough)
  refine ⟨⟨_, toPrecision_toPrecision _ _, bounded⟩, ?_, rfl, Nat.lt_of_lt_of_le (pow2_pos 0) least, most⟩
  rw [ofRatio, ofUnits, dif_pos bounded]

/-- The units of the part of a difference that is passed at the `i`-th of `n` steps. -/
def share (m : Magnitude) (n i : Nat) : Nat := toPrecision (m.units * toPrecision (i * unitsPerOne) n) unitsPerOne

theorem share_mono (m : Magnitude) (n : Nat) (le : i ≤ j) : share m n i ≤ share m n j :=
  toPrecision_mono _ (Nat.mul_le_mul_left _ (toPrecision_mono n (Nat.mul_le_mul_right _ le)))

theorem share_top (m : Magnitude) (some : 0 < n) : share m n n = m.units := by
  rw [share, Nat.mul_comm n, toPrecision_mul_self toPrecision_unitsPerOne some]
  exact toPrecision_mul_self m.exact (pow2_pos 1074)

theorem mul_part (negative : Bool) (m : Magnitude) (few : (n : ℚ) < overflow) (one : 1 ≤ i) (le : i ≤ n) :
    ∃ e : Magnitude, finite negative m * ofRatio false i n = finite negative e ∧ e.units = share m n i := by
  obtain ⟨t, part, units, -⟩ := exists_part few one le
  have most : share m n i ≤ m.units := Nat.le_trans (share_mono m n le) (share_top m (by omega)).le
  have bounded : share m n i < magnitudeLimit := Nat.lt_of_le_of_lt most m.bounded
  refine ⟨⟨share m n i, toPrecision_toPrecision _ _, bounded⟩, ?_, rfl⟩
  rw [part]
  change mul _ _ = _
  unfold mul
  dsimp only
  rw [Bool.bne_false, units]
  exact dif_pos bounded

theorem infinite_mul_part {negative : Bool} (few : (n : ℚ) < overflow) (one : 1 ≤ i) (le : i ≤ n) :
    infinite negative * ofRatio false i n = infinite negative := by
  obtain ⟨t, part, -, some, -⟩ := exists_part few one le
  rw [part]
  change (if t.units = 0 then nan else infinite (negative != false)) = _
  rw [if_neg (by omega), Bool.bne_false]

theorem add_infinite {negative : Bool} (ha : a.isFinite = true) : a + infinite negative = infinite negative := by
  cases a with
  | nan | infinite => cases ha
  | finite => rfl

theorem le_infinite (hx : x ≠ nan) : x.le (infinite false) = true := by
  cases x with
  | nan => exact absurd rfl hx
  | infinite negative => cases negative <;> rfl
  | finite => rfl

theorem infinite_le (hx : x ≠ nan) : (infinite true).le x = true := by
  cases x with
  | nan => exact absurd rfl hx
  | infinite negative => cases negative <;> rfl
  | finite => rfl

/-- A drag goes one way: up, or down. -/
theorem along_ordered (ha : a.isFinite = true) (hb : b.isFinite = true) (few : (n : ℚ) < overflow) :
    (∀ i j, 1 ≤ i → i ≤ j → j ≤ n → a.le (along a b n i) = true ∧ (along a b n i).le (along a b n j) = true) ∨
    (∀ i j, 1 ≤ i → i ≤ j → j ≤ n → (along a b n i).le a = true ∧ (along a b n j).le (along a b n i) = true) := by
  have start := ne_nan_of_isFinite ha
  have number := (sub_finite hb ha).1
  cases difference : b - a with
  | nan => exact absurd difference number
  | infinite negative =>
    -- the ends are further apart than any number, and every point is at infinity
    have there (i : Nat) (one : 1 ≤ i) (le : i ≤ n) : along a b n i = infinite negative := by
      rw [along, difference, infinite_mul_part few one le, add_infinite ha]
    cases negative with
    | false =>
      left
      intro i j one le most
      rw [there i one (Nat.le_trans le most), there j (Nat.le_trans one le) most]
      exact ⟨le_infinite start, rfl⟩
    | true =>
      right
      intro i j one le most
      rw [there i one (Nat.le_trans le most), there j (Nat.le_trans one le) most]
      exact ⟨infinite_le start, rfl⟩
  | finite negative m =>
    have there (i : Nat) (one : 1 ≤ i) (le : i ≤ n) : along a b n i ≠ nan ∧
        (along a b n i).height = roundedUnits (a.height + signed negative (share m n i)) := by
      obtain ⟨e, product, units⟩ := mul_part negative m few one le
      rw [along, difference, product, ← units]
      exact add_finite ha rfl
    have first := roundedUnits_height ha
    -- the parts of the difference grow, and rounding keeps their order
    cases negative with
    | false =>
      left
      intro i j one le most
      obtain ⟨hi, up⟩ := there i one (Nat.le_trans le most)
      obtain ⟨hj, up'⟩ := there j (Nat.le_trans one le) most
      have more := share_mono m n le
      rw [signed_false] at up up'
      rw [le_iff_height start hi, le_iff_height hi hj, up, up', ← first]
      exact ⟨roundedUnits_mono (by omega), roundedUnits_mono (by omega)⟩
    | true =>
      right
      intro i j one le most
      obtain ⟨hi, down⟩ := there i one (Nat.le_trans le most)
      obtain ⟨hj, down'⟩ := there j (Nat.le_trans one le) most
      have more := share_mono m n le
      rw [signed_true] at down down'
      rw [le_iff_height hi start, le_iff_height hj hi, down, down', ← first]
      exact ⟨roundedUnits_mono (by omega), roundedUnits_mono (by omega)⟩

/-- The last point of a drag does not depend on the number of its steps. -/
theorem along_top (ha : a.isFinite = true) (hb : b.isFinite = true) (few : (n : ℚ) < overflow) (some : 1 ≤ n) :
    along a b n n = reach a b := by
  have number := (sub_finite hb ha).1
  unfold along reach
  cases difference : b - a with
  | nan => exact absurd difference number
  | infinite negative => rw [infinite_mul_part few some (Nat.le_refl n)]
  | finite negative m =>
    obtain ⟨e, product, units⟩ := mul_part negative m few some (Nat.le_refl n)
    rw [share_top m some] at units
    obtain rfl : e = m := by
      cases e
      cases m
      cases units
      rfl
    rw [product]

theorem reach_ne_nan (ha : a.isFinite = true) (hb : b.isFinite = true) : reach a b ≠ nan := by
  have number := (sub_finite hb ha).1
  unfold reach
  cases difference : b - a with
  | nan => exact absurd difference number
  | infinite negative => rw [add_infinite ha]; simp
  | finite negative m => exact (add_finite ha rfl).1

theorem reach_eqv_of_exact (ha : a.isFinite = true) (hb : b.isFinite = true) (h : IsExactDifference a b) :
    (reach a b).eqv b = true := by
  have exact : (b - a).height = b.height - a.height := by
    have := h.exact
    rw [value, value, value, ← sub_div, div_left_inj' unitsPerOne_pos.ne'] at this
    exact_mod_cast this
  rw [eqv_iff_height (reach_ne_nan ha hb) (ne_nan_of_isFinite hb), reach, (add_finite ha h.finite).2, exact, add_sub_cancel,
    roundedUnits_height hb]

/-- A list that starts at a place and goes on along a sequence is ordered if the sequence is. -/
theorem pairwise_path {R : Binary64 → Binary64 → Prop} {f : Nat → Binary64}
    (ordered : ∀ i j, 1 ≤ i → i ≤ j → j ≤ n → R a (f i) ∧ R (f i) (f j)) :
    (a :: (List.range' 1 n).map f).Pairwise R := by
  rw [List.pairwise_cons, List.pairwise_map]
  constructor
  · intro x mem
    obtain ⟨i, hi, rfl⟩ := List.mem_map.1 mem
    rw [List.mem_range'_1] at hi
    exact (ordered i i hi.1 (Nat.le_refl i) (by omega)).1
  · refine List.Pairwise.imp_of_mem ?_ (List.pairwise_lt_range' 1)
    intro i j hi hj less
    rw [List.mem_range'_1] at hi hj
    exact (ordered i j hi.1 (Nat.le_of_lt less) (by omega)).2

theorem walk_along (ha : a.isFinite = true) (hb : b.isFinite = true) (few : (n : ℚ) < overflow) (full : 1 ≤ n) :
    Walk a b ((List.range' 1 n).map (along a b n)) := by
  have ordered := along_ordered ha hb few
  have top := along_top ha hb few full
  have last : ((List.range' 1 n).map (along a b n)).getLast? = some (reach a b) := by
    rw [List.getLast?_map, List.getLast?_range', if_neg (by omega), ← top, Nat.add_sub_cancel_left]
    rfl
  have within : ∀ x ∈ (List.range' 1 n).map (along a b n), Between a x (reach a b) := by
    intro x mem
    obtain ⟨i, hi, rfl⟩ := List.mem_map.1 mem
    rw [List.mem_range'_1] at hi
    rw [← top]
    exact ordered.imp (fun up => up i n hi.1 (by omega) (Nat.le_refl n))
      fun down => (down i n hi.1 (by omega) (Nat.le_refl n)).symm
  refine ⟨?_, last, within, ⟨fun h => ?_, fun same => ⟨fun x hx => (within x hx).congr same, ?_⟩⟩,
    reach_eqv_of_exact ha hb⟩
  · exact ordered.imp pairwise_path fun down => List.pairwise_reverse.2 (pairwise_path down)
  · exact h.2 _ last
  · intro x hx
    obtain rfl := Option.some.inj (last.symm.trans hx)
    exact same

/-- The difference of whole numbers of 52 bits is held exactly. -/
theorem isExactDifference_of_whole {k l : ℤ} (ha : a.isFinite = true) (hb : b.isFinite = true) (start : a.value = k)
    (finish : b.value = l) (low : |k| ≤ 2 ^ 52) (high : |l| ≤ 2 ^ 52) : IsExactDifference a b := by
  rw [value_eq_intCast_iff] at start finish
  rw [Int.abs_eq_natAbs] at low high
  have small : (l - k).natAbs ≤ pow2 53 := by
    have whole : (pow2 53 : Int) = 2 ^ 53 := by decide
    omega
  have held := holds_of_le small
  have size : ((l - k) * unitsPerOne).natAbs = (l - k).natAbs * unitsPerOne := by
    rw [Int.natAbs_mul, Int.natAbs_natCast]
  have same : roundedUnits ((l - k) * unitsPerOne) = (l - k) * unitsPerOne :=
    roundedUnits_of_exact (by rw [size]; exact held.exact) (by rw [size]; exact held.bounded)
  obtain ⟨number, height⟩ := sub_finite hb ha
  rw [start, finish, ← Int.sub_mul, same] at height
  refine ⟨isFinite_of_height_lt number (by rw [height, size]; exact held.bounded), ?_⟩
  rw [value, value, value, ← sub_div, height, start, finish, ← Int.cast_sub, Int.sub_mul]

end Binary64

/-- The requests of a drag: the press at the start, the points with a wait after each, the release at the finish. -/
def dragRequests {τ : Type} [Duration τ] (start finish : Point) (points : List Point) (pause : τ) :
    List (PlayRequest τ) :=
  .post (Player.mouse .down start) ::
    (points.flatMap fun point => .post (Player.mouse .drag point) :: waitFor pause) ++
      [.post (Player.mouse .up finish)]

namespace Player

variable {τ : Type} [Duration τ] (p : Player τ)

theorem makes_dragPoints (start finish : Point) (pause : τ) (steps i more : Nat) :
    Makes (dragPoints start finish pause steps i more)
      (((List.range' i more).map fun j => start.lerp finish (.ofRatio false j steps)).flatMap fun point =>
        .post (mouse .drag point) :: waitFor pause) () := by
  induction more generalizing i with
  | zero => exact .value ()
  | succ more ih =>
    rw [List.range'_succ, List.map_cons, List.flatMap_cons, List.cons_append]
    have moved := Makes.post (τ := τ) (mouse .drag (start.lerp finish (.ofRatio false i steps)))
    exact moved.bind ((Makes.pause pause).bind (ih (i + 1)))

/-- The points of a drag are made one after another between its press and its release. -/
theorem makes_drag (start finish : Point) {pause : τ}
    (parts : Duration.part p.settings.dragDuration p.settings.dragSteps.val = some pause) :
    Makes (p.perform (.drag start finish)) (dragRequests start finish
      ((List.range' 1 p.settings.dragSteps.val).map fun i =>
        start.lerp finish (.ofRatio false i p.settings.dragSteps.val)) pause) () := by
  have points := makes_dragPoints start finish pause p.settings.dragSteps.val 1 p.settings.dragSteps.val
  have held := points.whileHeld [mouse .up finish]
  change Makes (p.drag start finish) _ ()
  unfold drag
  dsimp only
  rw [parts]
  exact (Makes.post (mouse .down start)).bind held

theorem map_x_path (start finish : Point) (n : Nat) :
    ((List.range' 1 n).map fun i => start.lerp finish (.ofRatio false i n)).map Point.x =
      (List.range' 1 n).map (Binary64.along start.x finish.x n) := List.map_map

theorem map_y_path (start finish : Point) (n : Nat) :
    ((List.range' 1 n).map fun i => start.lerp finish (.ofRatio false i n)).map Point.y =
      (List.range' 1 n).map (Binary64.along start.y finish.y n) := List.map_map

theorem isFinite_ofNat_iff {n : Nat} : (Binary64.ofNat n).isFinite = true ↔ (n : ℚ) < Binary64.overflow := by
  rw [Binary64.ofNat, Binary64.isFinite_ofRatio_iff Nat.one_pos, Nat.cast_one, div_one]

theorem part_ofBinary64 (time : Binary64) (n : Nat) :
    ((n : ℚ) < Binary64.overflow → ∃ pause, Duration.part time n = some pause) ∧
    (Binary64.overflow ≤ n → Duration.part time n = none) :=
  ⟨fun few => ⟨_, if_pos (isFinite_ofNat_iff.2 few)⟩,
    fun many => if_neg fun held => absurd (isFinite_ofNat_iff.1 held) (not_lt_of_ge many)⟩

/-- Where nothing raises, a drag presses at its start, passes as many points as it has steps, and releases at its
finish, unless the steps are too many to be counted by a number. In each coordinate the points go one way, from the
start to the rounded sum of the start and the rounded difference. They stay between start and finish and get to the
finish just if this sum is the finish. -/
theorem drag_walk (p : Player Binary64) {start finish : Point} (hs : start.IsFinite) (hf : finish.IsFinite) :
    (Binary64.overflow ≤ p.settings.dragSteps.val → p.perform (.drag start finish) = .throw .tooManyParts) ∧
    ((p.settings.dragSteps.val : ℚ) < Binary64.overflow → ∃ points pause,
      Duration.part p.settings.dragDuration p.settings.dragSteps.val = some pause ∧
      Makes (p.perform (.drag start finish)) (dragRequests start finish points pause) () ∧
      points.length = p.settings.dragSteps.val ∧
      Binary64.Walk start.x finish.x (points.map Point.x) ∧ Binary64.Walk start.y finish.y (points.map Point.y)) := by
  obtain ⟨counted, beyond⟩ := part_ofBinary64 p.settings.dragDuration p.settings.dragSteps.val
  refine ⟨fun many => p.perform_uncountable (p.isUncountable_drag (beyond many) start finish), fun few => ?_⟩
  obtain ⟨pause, parts⟩ := counted few
  have across := Binary64.walk_along hs.1 hf.1 few p.settings.dragSteps.pos
  have down := Binary64.walk_along hs.2 hf.2 few p.settings.dragSteps.pos
  refine ⟨_, pause, parts, p.makes_drag start finish parts, ?_, ?_, ?_⟩
  · rw [List.length_map, List.length_range']
  · rwa [map_x_path]
  · rwa [map_y_path]

/-- A drag of five steps between whole coordinates gets to its finish. -/
theorem drag_walk_whole :
    let p : Player Binary64 := ⟨.standard, chordGestures⟩
    let start : Point := ⟨.ofInt 100, .ofInt (-7)⟩
    let finish : Point := ⟨.ofInt 3, .ofInt 50⟩
    start.IsFinite ∧ finish.IsFinite ∧ (p.settings.dragSteps.val : ℚ) < Binary64.overflow ∧
      ∃ points pause, Makes (p.perform (.drag start finish)) (dragRequests start finish points pause) () ∧
        points.length = 5 ∧ (∀ x ∈ points.map Point.x, Binary64.Between start.x x finish.x) ∧
        ∀ x ∈ (points.map Point.x).getLast?, x.eqv finish.x = true := by
  intro p start finish
  have hs : start.IsFinite := ⟨by decide +kernel, by decide +kernel⟩
  have hf : finish.IsFinite := ⟨by decide +kernel, by decide +kernel⟩
  have few : (p.settings.dragSteps.val : ℚ) < Binary64.overflow := isFinite_ofNat_iff.1 (by decide +kernel)
  obtain ⟨points, pause, -, made, count, across, -⟩ := (drag_walk p hs hf).2 few
  have whole : Binary64.IsExactDifference start.x finish.x :=
    Binary64.isExactDifference_of_whole hs.1 hf.1 (k := 100) (l := 3)
      (Binary64.value_eq_intCast_iff.2 (by decide +kernel)) (Binary64.value_eq_intCast_iff.2 (by decide +kernel))
      (by decide) (by decide)
  exact ⟨hs, hf, few, points, pause, made, count, across.arrives.2 (across.arrives_of_exact whole)⟩

/-- A drag in one step from 0.3 to 0.9 passes its finish by. -/
theorem drag_decimal_overshoots :
    let settings : PlaySettings Binary64 := { PlaySettings.standard with dragSteps := ⟨1, Nat.one_pos⟩ }
    let p : Player Binary64 := ⟨settings, chordGestures⟩
    let start : Point := ⟨.ofRatio false 3 10, .zero⟩
    let finish : Point := ⟨.ofRatio false 9 10, .zero⟩
    start.IsFinite ∧ finish.IsFinite ∧ ∃ point,
      Makes (p.perform (.drag start finish)) (dragRequests start finish [point] (.ofNat 1)) () ∧
        finish.x.lt point.x = true := by
  intro settings p start finish
  have parts : Duration.part p.settings.dragDuration p.settings.dragSteps.val = some (Binary64.ofNat 1) := by
    decide +kernel
  have hs : start.IsFinite := ⟨by decide +kernel, by decide +kernel⟩
  have hf : finish.IsFinite := ⟨by decide +kernel, by decide +kernel⟩
  exact ⟨hs, hf, _, p.makes_drag start finish parts, by decide +kernel⟩

end Player

end InputReplay
