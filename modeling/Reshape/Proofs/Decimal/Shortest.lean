/-
Module: Reshape.Proofs.Decimal.Shortest
Purpose: which digits are written for a double of more than 53 bits.
Main exports: Double.Long.nearest_eq_iff, Double.Shortest, Decimal.search_long
Trusted boundary: none
-/
import Reshape.Decimal.Shortest
import Reshape.Proofs.Decimal.Nearest

/-!
# Shortest digits of long doubles

A double of more than 53 bits stands for all the numbers that round to it. The one that is written
ends in the most zeros among them, and of those that end in as many it is the nearest.
-/

namespace Reshape

/-! ### The numbers that round to a double -/

namespace Double

open Decimal (roundHalfEven)

variable {n m significand places : Nat}

/-- A number of more than 53 bits that needs no rounding. -/
structure Long (n significand places : Nat) : Prop where
  full : 2 ^ 52 ≤ significand ∧ significand < 2 ^ 53
  value : n = significand * 2 ^ (places + 1)

/-- The significand and the half of a place, in numbers. -/
theorem Long.bounds (long : Long n significand places) :
    n = 2 * (significand * 2 ^ places) ∧
      2 ^ 52 * 2 ^ places ≤ significand * 2 ^ places ∧
      significand * 2 ^ places + 2 ^ places ≤ 2 ^ 53 * 2 ^ places ∧
      (significand = 2 ^ 52 → significand * 2 ^ places = 2 ^ 52 * 2 ^ places) ∧
      (significand ≠ 2 ^ 52 → 2 ^ 52 * 2 ^ places + 2 ^ places ≤ significand * 2 ^ places) := by
  have full := long.full
  refine ⟨?_, Nat.mul_le_mul_right _ full.1, ?_, fun first => first ▸ rfl, fun later => ?_⟩
  · rw [long.value, Nat.pow_succ', Nat.mul_left_comm]
  · exact Nat.succ_mul significand _ ▸ Nat.mul_le_mul_right _ full.2
  · exact Nat.succ_mul (2 ^ 52) _ ▸ Nat.mul_le_mul_right _ (by omega)

theorem Long.positive (long : Long n significand places) : 0 < n := by
  have positive := Nat.two_pow_pos places
  obtain ⟨double, least, -⟩ := long.bounds
  omega

/-- A length other than zero tells the powers of two around a number. -/
theorem bounds_of_log2_eq {length : Nat} (positive : 0 < length) (same : m.log2 = length) :
    2 ^ length ≤ m ∧ m < 2 ^ (length + 1) := by
  refine (Nat.log2_eq_iff ?_).1 same
  rintro rfl
  rw [Nat.log2_zero] at same
  omega

/-- A number of the same length rounds to a long one from half a place away, without the ends when
the significand is odd. -/
theorem Long.nearest_eq_iff_of_log2_eq (long : Long n significand places)
    (length : m.log2 = 53 + places) :
    nearest m = n ↔ n ≤ m + 2 ^ places ∧ m ≤ n + 2 ^ places ∧
      (significand % 2 = 1 → n ≠ m + 2 ^ places ∧ m ≠ n + 2 ^ places) := by
  have dropped : excess m = places + 1 := by rw [excess]; omega
  have cancel : nearest m = n ↔ roundHalfEven m (2 ^ (places + 1)) = significand := by
    rw [nearest, dropped, long.value, Nat.mul_right_cancel_iff (Nat.two_pow_pos _)]
  rw [cancel, Decimal.roundHalfEven_eq_iff (Nat.two_pow_pos _), ← long.value, Nat.pow_succ']
  omega

/-- A number with one bit less can only round up to the least long one, from a quarter of a place
away. -/
theorem Long.nearest_eq_iff_of_shorter (long : Long n significand places)
    (length : m.log2 = 52 + places) :
    nearest m = n ↔ significand = 2 ^ 52 ∧ 2 * n ≤ 2 * m + 2 ^ places := by
  have positive := Nat.two_pow_pos places
  obtain ⟨double, -, -, first, -⟩ := long.bounds
  have full := long.full
  have power : 2 ^ (53 + places) = 2 ^ 53 * 2 ^ places := Nat.pow_add ..
  have bounds := bounds_of_log2_eq (by omega) length
  rw [Nat.add_right_comm, power, Nat.pow_add] at bounds
  have between := (Decimal.roundHalfEven_between positive bounds.1 bounds.2).2
  have dropped : excess m = places := by rw [excess]; omega
  have cancel : nearest m = n ↔ roundHalfEven m (2 ^ places) = 2 * significand := by
    rw [nearest, dropped, double, ← Nat.mul_assoc, Nat.mul_right_cancel_iff positive]
  rw [cancel]
  constructor
  · intro rounded
    have start : significand = 2 ^ 52 := by omega
    rw [Decimal.roundHalfEven_eq_iff positive, Nat.mul_assoc, ← double] at rounded
    exact ⟨start, rounded.1⟩
  · rintro ⟨start, near⟩
    have start := first start
    rw [Decimal.roundHalfEven_eq_iff positive, Nat.mul_assoc, ← double]
    omega

/-- Numbers of any other length do not round to a long one. -/
theorem Long.length_of_nearest_eq (long : Long n significand places) (rounds : nearest m = n) :
    m.log2 = 52 + places ∨ m.log2 = 53 + places := by
  have positive := Nat.two_pow_pos places
  obtain ⟨double, least, most, -⟩ := long.bounds
  have nonzero : 0 < m := by
    refine Nat.pos_of_ne_zero ?_
    rintro rfl
    have none : nearest 0 = 0 := rfl
    omega
  have kept := nearest_bounds nonzero
  have middle : 2 ^ (53 + places) = 2 ^ 53 * 2 ^ places := Nat.pow_add ..
  have high : 2 ^ (54 + places) = 2 ^ 54 * 2 ^ places := Nat.pow_add ..
  by_contra other
  rcases Nat.lt_or_ge m.log2 (52 + places) with shorter | longer
  · have step : 2 ^ (m.log2 + 1) ≤ 2 ^ (52 + places) := Nat.pow_le_pow_right (by decide) shorter
    have low : 2 ^ (52 + places) = 2 ^ 52 * 2 ^ places := Nat.pow_add ..
    omega
  · have step : 2 ^ (54 + places) ≤ 2 ^ m.log2 := Nat.pow_le_pow_right (by decide) (by omega)
    omega

/-- The numbers that round to a long one: those up to half a place away, without the ends when the
significand is odd, and up to a quarter below when it is the least one. -/
theorem Long.nearest_eq_iff (long : Long n significand places) :
    nearest m = n ↔
      2 * n ≤ 2 * m + (if significand = 2 ^ 52 then 2 ^ places else 2 * 2 ^ places) ∧
        m ≤ n + 2 ^ places ∧
        (significand % 2 = 1 → n ≠ m + 2 ^ places ∧ m ≠ n + 2 ^ places) := by
  have positive := Nat.two_pow_pos places
  have full := long.full
  obtain ⟨double, least, most, first, later⟩ := long.bounds
  have middle : 2 ^ (53 + places) = 2 ^ 53 * 2 ^ places := Nat.pow_add ..
  by_cases same : m.log2 = 53 + places
  · have bounds := bounds_of_log2_eq (by omega) same
    rw [long.nearest_eq_iff_of_log2_eq same]
    split_ifs with start
    · have start := first start
      omega
    · omega
  · by_cases shorter : m.log2 = 52 + places
    · have bounds := bounds_of_log2_eq (by omega) shorter
      rw [Nat.add_right_comm, middle] at bounds
      rw [long.nearest_eq_iff_of_shorter shorter]
      split_ifs with start
      · have start := first start
        omega
      · have later := later start
        omega
    · -- whatever is that near has one of the two lengths
      refine iff_of_false (fun rounds => ?_) fun ⟨lower, upper, _⟩ => ?_
      · have length := long.length_of_nearest_eq rounds
        omega
      · have low : 2 ^ (52 + places) = 2 ^ 52 * 2 ^ places := Nat.pow_add ..
        have high : 2 ^ (54 + places) = 2 ^ 54 * 2 ^ places := Nat.pow_add ..
        have above : 2 ^ (52 + places) ≤ m := by split_ifs at lower <;> omega
        have nonzero : m ≠ 0 := by omega
        have longer := (Nat.le_log2 nonzero).2 above
        have bounded := (Nat.log2_lt nonzero).2 (by omega : m < 2 ^ (54 + places))
        omega

theorem Long.nearest_self (long : Long n significand places) : nearest n = n := by
  have positive := Nat.two_pow_pos places
  rw [long.nearest_eq_iff]
  split_ifs <;> omega

/-- What lies between two numbers that round to a long one rounds to it too. -/
theorem Long.convex (long : Long n significand places) {low high : Nat} (least : nearest low = n)
    (most : nearest high = n) (above : low ≤ m) (below : m ≤ high) : nearest m = n := by
  rw [long.nearest_eq_iff] at *
  split_ifs at * <;> omega

end Double

/-! ### The interval of a double on a grid -/

namespace Decimal

open Double (nearest Long)

variable {interval : Interval} {n significand places : Nat}

/-- An interval that reaches half a place around a long number, and a quarter below the least one
of its length. -/
structure Interval.Around (interval : Interval) (n significand places : Nat) : Prop where
  positive : 0 < interval.unit
  value : interval.value = n * interval.unit
  below : 2 * interval.below =
    (if significand = 2 ^ 52 then 2 ^ places else 2 * 2 ^ places) * interval.unit
  above : interval.above = 2 ^ places * interval.unit
  closed : interval.closed = (significand % 2 == 0)

theorem Interval.around_ofBinary (long : Long n significand places) (negative : Bool) :
    (ofBinary ⟨negative, significand, ((places + 1 : Nat) : Int)⟩).Around n significand places := by
  have scale : 2 * 2 ^ (((places + 1 : Nat) : Int) - 2).toNat =
      2 ^ places * 2 ^ (2 - ((places + 1 : Nat) : Int)).toNat := by
    cases places with
    | zero => rfl
    | succ places =>
        have up : (((places + 1 + 1 : Nat) : Int) - 2).toNat = places := by omega
        have down : (2 - ((places + 1 + 1 : Nat) : Int)).toNat = 0 := by omega
        rw [up, down, Nat.pow_succ', Nat.pow_zero, Nat.mul_one]
  have least : (significand == Nat.pow 2 52 && ((places + 1 : Nat) : Int) != -1074) =
      decide (significand = 2 ^ 52) := by
    have other : (((places + 1 : Nat) : Int) != -1074) = true := bne_iff_ne.2 (by omega)
    rw [other, Bool.and_true]
    rfl
  refine ⟨Nat.two_pow_pos _, ?_, ?_, scale, rfl⟩
  · change 4 * significand * 2 ^ _ = n * 2 ^ _
    rw [long.bounds.1, Nat.mul_assoc 2, Nat.mul_assoc significand, ← scale,
      Nat.mul_left_comm significand, ← Nat.mul_assoc 2, Nat.mul_assoc 4]
  · change 2 * ((if (significand == Nat.pow 2 52 && ((places + 1 : Nat) : Int) != -1074) = true
      then 1 else 2) * 2 ^ _) = _ * 2 ^ _
    simp only [least, decide_eq_true_eq]
    split_ifs
    · rw [Nat.one_mul, scale]
    · rw [Nat.mul_assoc, ← scale]

/-- A grid of whole numbers only has a longer unit. -/
theorem Interval.onGrid_natural (interval : Interval) (exponent : Nat) :
    interval.onGrid exponent = { interval with unit := interval.unit * 10 ^ exponent } := by
  simp [onGrid]

/-- The ends of an interval are compared in any unit as they are without one. -/
theorem compare_in_units {m half unit bound below : Nat} (positive : 0 < unit)
    (bounded : 2 * below = bound * unit) :
    (2 * n ≤ 2 * m + bound ↔ n * unit ≤ m * unit + below) ∧
      (m ≤ n + half ↔ m * unit ≤ n * unit + half * unit) ∧
      (n = m + half ↔ n * unit = m * unit + half * unit) ∧
      (m = n + half ↔ m * unit = n * unit + half * unit) := by
  refine ⟨?_, ?_, ?_, ?_⟩
  · rw [← Nat.mul_le_mul_right_iff positive, Nat.add_mul, ← bounded, Nat.mul_assoc, Nat.mul_assoc]
    omega
  · rw [← Nat.mul_le_mul_right_iff positive, Nat.add_mul]
  · rw [← Nat.add_mul, Nat.mul_right_cancel_iff positive]
  · rw [← Nat.add_mul, Nat.mul_right_cancel_iff positive]

/-- Its points on a grid are the multiples that round to the number. -/
theorem Interval.Around.contains_iff (around : interval.Around n significand places)
    (long : Long n significand places) (exponent point : Nat) :
    (interval.onGrid exponent).contains point = true ↔ nearest (point * 10 ^ exponent) = n := by
  have below := around.below
  obtain ⟨lower, upper, bottom, top⟩ :=
    @compare_in_units n (point * 10 ^ exponent) (2 ^ places) _ _ _ around.positive below
  rw [Interval.onGrid_natural, Interval.contains]
  dsimp only
  rw [Nat.mul_comm interval.unit, ← Nat.mul_assoc, around.closed, around.value, around.above,
    long.nearest_eq_iff, lower, upper, Ne, Ne, bottom, top]
  rcases Nat.mod_two_eq_zero_or_one significand with even | odd
  · simp [even]
  · have later : significand ≠ 2 ^ 52 := by omega
    rw [if_neg later, Nat.mul_assoc] at below
    simp only [odd, Nat.reduceBEq, Bool.false_eq_true, if_false, Bool.and_eq_true,
      decide_eq_true_eq, forall_const]
    omega

/-! ### The point that is picked -/

/-- A multiple of `grid` that rounds to `n`, the nearest one of these and the upper one of two. -/
structure Closest (n grid point : Nat) : Prop where
  rounds : nearest (point * grid) = n
  nearer : ∀ other, nearest (other * grid) = n →
    Nat.dist (point * grid) n < Nat.dist (other * grid) n ∨
      Nat.dist (point * grid) n = Nat.dist (other * grid) n ∧ other ≤ point

/-- If a multiple rounds to a long number, then the one of the two around the number on the same
side does. -/
theorem rounds_around (long : Long n significand places) {grid point : Nat} (positive : 0 < grid)
    (rounds : nearest (point * grid) = n) :
    (point ≤ n / grid → nearest (n / grid * grid) = n) ∧
      (n / grid < point → nearest ((n / grid + 1) * grid) = n) := by
  have split := Nat.div_add_mod' n grid
  have short := Nat.mod_lt n positive
  constructor
  · intro low
    have step := Nat.mul_le_mul_right grid low
    exact long.convex rounds long.nearest_self step (by omega)
  · intro high
    have step := Nat.mul_le_mul_right grid high
    rw [Nat.succ_mul] at step ⊢
    exact long.convex long.nearest_self rounds (by omega) step

/-- The points of a grid around a long number are tested and compared as multiples. -/
theorem Interval.Around.pick?_eq (around : interval.Around n significand places)
    (long : Long n significand places) (exponent : Nat) :
    (interval.onGrid exponent).pick? .up =
      if nearest (n / 10 ^ exponent * 10 ^ exponent) = n ∧
          (nearest ((n / 10 ^ exponent + 1) * 10 ^ exponent) = n →
            2 * (n % 10 ^ exponent) < 10 ^ exponent) then
        some (n / 10 ^ exponent)
      else if nearest ((n / 10 ^ exponent + 1) * 10 ^ exponent) = n then
        some (n / 10 ^ exponent + 1)
      else none := by
  have zero : nearest (0 * 10 ^ exponent) ≠ n := by
    have positive : 0 < n := long.positive
    rw [Nat.zero_mul]
    exact Nat.ne_of_lt positive
  have low : (interval.onGrid exponent).value / (interval.onGrid exponent).unit =
      n / 10 ^ exponent := by
    rw [Interval.onGrid_natural, around.value, Nat.mul_comm n,
      Nat.mul_div_mul_left _ _ around.positive]
  have rest : (interval.onGrid exponent).value % (interval.onGrid exponent).unit =
      interval.unit * (n % 10 ^ exponent) := by
    rw [Interval.onGrid_natural, around.value, Nat.mul_comm n, Nat.mul_mod_mul_left]
  have unit : (interval.onGrid exponent).unit = interval.unit * 10 ^ exponent := by
    rw [Interval.onGrid_natural]
  have contains (point : Nat) : (interval.onGrid exponent).contains point =
      decide (nearest (point * 10 ^ exponent) = n) := by
    rw [Bool.eq_iff_iff, around.contains_iff long, decide_eq_true_eq]
  have filled (point : Nat) : (decide (nearest (point * 10 ^ exponent) = n) && point != 0) =
      decide (nearest (point * 10 ^ exponent) = n) := by
    by_cases none : point = 0
    · rw [none, decide_eq_false zero, Bool.false_and]
    · rw [bne_iff_ne.2 none, Bool.and_true]
  have scaled (a b : Nat) : interval.unit * a < interval.unit * b ↔ a < b :=
    Nat.mul_lt_mul_left around.positive
  rw [Interval.pick?, low, rest, unit, contains, contains, filled]
  by_cases below : nearest (n / 10 ^ exponent * 10 ^ exponent) = n <;>
    by_cases above : nearest ((n / 10 ^ exponent + 1) * 10 ^ exponent) = n <;>
    simp [below, above, Nat.mul_left_comm 2, scaled]

theorem Interval.Around.pick?_some (around : interval.Around n significand places)
    (long : Long n significand places) {exponent point : Nat}
    (picked : (interval.onGrid exponent).pick? .up = some point) :
    Closest n (10 ^ exponent) point := by
  have positive : 0 < 10 ^ exponent := Nat.pow_pos (by decide)
  rw [around.pick?_eq long] at picked
  generalize 10 ^ exponent = grid at *
  have split := Nat.div_add_mod' n grid
  have short := Nat.mod_lt n positive
  -- the point below is `n % grid` away, the one above the rest of a grid step
  split_ifs at picked with low high
  · obtain rfl := Option.some.inj picked
    refine ⟨low.1, fun other rounds => ?_⟩
    rcases Nat.lt_trichotomy other (n / grid) with below | rfl | above
    · have step := Nat.mul_le_mul_right grid below
      rw [Nat.succ_mul] at step
      simp only [Nat.dist]
      omega
    · exact .inr ⟨rfl, Nat.le_refl _⟩
    · have near := low.2 ((rounds_around long positive rounds).2 above)
      have step := Nat.mul_le_mul_right grid above
      rw [Nat.succ_mul] at step
      simp only [Nat.dist]
      omega
  · obtain rfl := Option.some.inj picked
    refine ⟨high, fun other rounds => ?_⟩
    rcases Nat.lt_trichotomy other (n / grid + 1) with below | rfl | above
    · have far : grid ≤ 2 * (n % grid) := by
        have rounds_low := (rounds_around long positive rounds).1 (by omega)
        by_contra near
        exact low ⟨rounds_low, fun _ => by omega⟩
      have step := Nat.mul_le_mul_right grid (Nat.le_of_lt_succ below)
      rw [Nat.succ_mul]
      simp only [Nat.dist]
      omega
    · exact .inr ⟨rfl, Nat.le_refl _⟩
    · have step := Nat.mul_le_mul_right grid above
      rw [Nat.succ_mul] at step
      rw [Nat.succ_mul] at step ⊢
      simp only [Nat.dist]
      omega

theorem Interval.Around.pick?_none (around : interval.Around n significand places)
    (long : Long n significand places) {exponent : Nat}
    (missed : (interval.onGrid exponent).pick? .up = none) (point : Nat) :
    nearest (point * 10 ^ exponent) ≠ n := by
  intro rounds
  have positive : 0 < 10 ^ exponent := Nat.pow_pos (by decide)
  obtain ⟨below, above⟩ := rounds_around long positive rounds
  rw [around.pick?_eq long] at missed
  split_ifs at missed with low high
  rcases Nat.lt_or_ge (n / 10 ^ exponent) point with greater | less
  · exact high (above greater)
  · exact low ⟨below less, fun rounds_high => absurd rounds_high high⟩

/-- The first grid that has a point. -/
theorem search_eq (around : interval.Around n significand places)
    (long : Long n significand places) {start steps : Nat} (enough : start < steps) :
    ∃ exponent ≤ start, ∃ point,
      search .up interval start steps = ⟨point, exponent⟩ ∧ Closest n (10 ^ exponent) point ∧
      ∀ finer, exponent < finer → finer ≤ start → ∀ other, nearest (other * 10 ^ finer) ≠ n := by
  induction steps generalizing start with
  | zero => omega
  | succ steps ih =>
      rw [search]
      cases picked : (interval.onGrid start).pick? .up with
      | some point =>
          exact ⟨start, Nat.le_refl _, point, rfl, around.pick?_some long picked, by omega⟩
      | none =>
          have missed := around.pick?_none long picked
          cases start with
          | zero =>
              -- the number is a multiple of one, so the last grid cannot miss it
              have itself := missed n
              rw [Nat.pow_zero, Nat.mul_one] at itself
              exact absurd long.nearest_self itself
          | succ start =>
              have next : ((start + 1 : Nat) : Int) - 1 = (start : Nat) := by omega
              obtain ⟨exponent, bounded, point, found, closest, coarser⟩ :=
                ih (by omega : start < steps)
              refine ⟨exponent, by omega, point, ?_, closest, fun finer above below => ?_⟩
              · rw [next]
                exact found
              · rcases Nat.lt_or_eq_of_le below with less | rfl
                · exact coarser finer above (by omega)
                · exact missed

/-- The search starts above every multiple that could round to the number. -/
theorem coarsest_eq (long : Long n significand places) (short : places < 12) (negative : Bool) :
    ∃ start < 24, coarsest ⟨negative, significand, ((places + 1 : Nat) : Int)⟩ = (start : Nat) ∧
      ∀ coarser, start < coarser → ∀ point, nearest (point * 10 ^ coarser) ≠ n := by
  have length : significand.log2 = 52 :=
    (Nat.log2_eq_iff (by have := long.full; omega)).2 long.full
  have high : ∀ places < 12, (53 + places) * 30103 / 100000 + 2 < 24 ∧
      2 ^ (54 + places) ≤ 10 ^ ((53 + places) * 30103 / 100000 + 3) := by decide
  obtain ⟨few, beyond⟩ := high places short
  refine ⟨(53 + places) * 30103 / 100000 + 2, few, ?_, fun coarser above point rounds => ?_⟩
  · rw [coarsest, length]
    dsimp only
    omega
  · have power : 10 ^ ((53 + places) * 30103 / 100000 + 3) ≤ 10 ^ coarser :=
      Nat.pow_le_pow_right (by decide) above
    have unit : 2 ^ (54 + places) = 2 ^ 54 * 2 ^ places := Nat.pow_add ..
    have positive := Nat.two_pow_pos places
    obtain ⟨double, -, most, -⟩ := long.bounds
    have bounded := (long.nearest_eq_iff.1 rounds).2.1
    have nonzero : point ≠ 0 := by
      rintro rfl
      rw [Nat.zero_mul] at rounds
      exact absurd long.positive (by rw [← rounds]; decide)
    have multiple : 10 ^ coarser ≤ point * 10 ^ coarser :=
      Nat.le_mul_of_pos_left _ (Nat.pos_of_ne_zero nonzero)
    omega

end Decimal

/-! ### What is written -/

namespace Double

variable {n w : Nat}

/-- Among the numbers with the double of `n`, the one that ends in the most zeros, of several the
nearest to the double, and of two the greater one. -/
structure Shortest (n w : Nat) : Prop where
  same : nearest w = nearest n
  zeros : ∀ m, nearest m = nearest n → ∀ count, 10 ^ count ∣ m → 10 ^ count ∣ w
  nearer : ∀ m, nearest m = nearest n → (∀ count, 10 ^ count ∣ w → 10 ^ count ∣ m) →
    Nat.dist w (nearest n) < Nat.dist m (nearest n) ∨
      Nat.dist w (nearest n) = Nat.dist m (nearest n) ∧ m ≤ w

theorem Shortest.unique {other : Nat} (one : Shortest n w) (two : Shortest n other) :
    w = other := by
  have below := one.nearer other two.same (two.zeros w one.same)
  have above := two.nearer w one.same (one.zeros other two.same)
  omega

/-- A number that needs no rounding is written itself. -/
theorem shortest_of_lt (small : n < 2 ^ 53) : Shortest n n := by
  have alone : ∀ m, nearest m = nearest n → m = n := fun m same => by
    rwa [nearest_of_lt small, nearest_eq_iff_of_lt small] at same
  refine ⟨rfl, fun m same count divides => ?_, fun m same _ => ?_⟩
  · rwa [← alone m same]
  · rw [alone m same]
    exact .inr ⟨rfl, Nat.le_refl _⟩

end Double

namespace Decimal

open Double (nearest Long Shortest)

/-- What the search finds for a long number is the shortest of the numbers that round to it. -/
theorem search_long {n m significand places : Nat} (long : Long n significand places)
    (short : places < 12) (negative : Bool) (rounds : nearest m = n) :
    ∃ point exponent : Nat, 0 < point ∧ Shortest m (point * 10 ^ exponent) ∧
      search .up (Interval.ofBinary ⟨negative, significand, ((places + 1 : Nat) : Int)⟩)
        (coarsest ⟨negative, significand, ((places + 1 : Nat) : Int)⟩) 24 =
          ⟨point, exponent⟩ := by
  obtain ⟨start, few, coarsest_start, beyond⟩ := coarsest_eq long short negative
  obtain ⟨exponent, bounded, point, found, closest, coarser⟩ :=
    search_eq (Interval.around_ofBinary long negative) long few
  refine ⟨point, exponent, ?_, ⟨?_, ?_, ?_⟩, ?_⟩
  · refine Nat.pos_of_ne_zero ?_
    rintro rfl
    have zero := closest.rounds
    rw [Nat.zero_mul] at zero
    exact absurd long.positive (by rw [← zero]; decide)
  · rw [rounds, closest.rounds]
  · intro other same count divides
    rw [rounds] at same
    obtain ⟨multiple, rfl⟩ := divides
    rw [Nat.mul_comm] at same
    have fine : count ≤ exponent := by
      by_contra above
      by_cases low : count ≤ start
      · exact coarser count (by omega) low multiple same
      · exact beyond count (by omega) multiple same
    exact Nat.dvd_mul_left_of_dvd (Nat.pow_dvd_pow 10 fine) point
  · intro other same ends
    rw [rounds] at same ⊢
    obtain ⟨multiple, rfl⟩ := ends exponent (Nat.dvd_mul_left _ _)
    rw [Nat.mul_comm (10 ^ exponent)] at same ⊢
    exact (closest.nearer multiple same).imp_right (And.imp_right (Nat.mul_le_mul_right _))
  · rw [coarsest_start, found]

end Decimal

end Reshape
