import Mathlib.Algebra.Order.Field.Power
import Mathlib.Algebra.Order.Archimedean.Basic
import Mathlib.Data.Rat.Cast.Order
import Mathlib.Tactic.FieldSimp
import Mathlib.Tactic.Linarith
import Mathlib.Tactic.NormNum
import Mathlib.Tactic.Positivity
import Caseflow.Decimal.Shortest
import Caseflow.Proofs.Numerals
/-! The text of a floating-point number. The reals that round to a number reach to the middle
between it and its neighbours. Among the multiples of a power of ten in that range there are some
for every power that is small enough, and the text shows the nearest one of the greatest power that
has any. -/
namespace Caseflow

/-- The number that the decimal is. -/
def Decimal.worth (decimal : Decimal) : ℚ :=
  decimal.digits * 10 ^ decimal.exponent

/-- How a number above zero is shown: from `1e-5` to below `1e16` with its point in place and a
digit on either side of it, else with one digit before the point and an exponent. No zero is
needless. -/
inductive ShownAs (worth : ℚ) : List Char → Prop
  | fixed {front : ℕ} {whole fraction : List Char} (range : 1 / 10 ^ 5 ≤ worth ∧ worth < 10 ^ 16)
      (numeral : Text.IsNumeral front whole) (nonempty : fraction ≠ [])
      (decimal : ∀ c ∈ fraction, c.isDigit = true)
      (last : fraction.getLast? = some '0' → fraction = ['0'])
      (is : worth * 10 ^ fraction.length = Nat.ofDigitChars 10 (whole ++ fraction) 0) :
      ShownAs worth (whole ++ '.' :: fraction)
  | scientific {first : Char} {rest numeral : List Char} {power : ℤ}
      (range : worth < 1 / 10 ^ 5 ∨ 10 ^ 16 ≤ worth)
      (decimal : ∀ c ∈ first :: rest, c.isDigit = true) (lead : first ≠ '0')
      (last : rest.getLast? ≠ some '0')
      (is : worth = Nat.ofDigitChars 10 (first :: rest) 0 * 10 ^ (power - rest.length))
      (exponent : Text.IsNumeral power.natAbs numeral) :
      ShownAs worth (first :: (if rest = [] then [] else '.' :: rest) ++
        'e' :: (if power < 0 then '-' else '+') :: numeral)

namespace Binary64

/-- The significand has at most 53 bits, and as many, unless the exponent is the least one. -/
structure Proper (number : Binary64) : Prop where
  significand : number.significand < 2 ^ 53
  least : -1074 ≤ number.exponent
  greatest : number.exponent ≤ 971
  full : -1074 < number.exponent → 2 ^ 52 ≤ number.significand

/-- The number without its sign. -/
def magnitude (number : Binary64) : ℚ :=
  number.significand * 2 ^ number.exponent

/-- How far below the number the reals begin that round to it: half way to its neighbour, which is
nearer below a power of two. -/
def reach (number : Binary64) : ℚ :=
  if number.significand = 2 ^ 52 ∧ -1074 < number.exponent then 2 ^ number.exponent / 4
  else 2 ^ number.exponent / 2

/-- A real rounds to the number, which is its nearest one; half way it rounds to an even
significand. -/
def RoundsFrom (number : Binary64) (x : ℚ) : Prop :=
  if number.significand % 2 = 0 then
    number.magnitude - number.reach ≤ x ∧ x ≤ number.magnitude + 2 ^ number.exponent / 2
  else
    number.magnitude - number.reach < x ∧ x < number.magnitude + 2 ^ number.exponent / 2

/-- The decimal rounds to the number, no decimal of a greater exponent does, and of those of its own
exponent it is the nearest one, the even one of two. -/
structure IsShortest (number : Binary64) (decimal : Decimal) : Prop where
  rounds : number.RoundsFrom decimal.worth
  coarsest : ∀ other : Decimal, number.RoundsFrom other.worth → other.exponent ≤ decimal.exponent
  nearest : ∀ other : Decimal, number.RoundsFrom other.worth → other.exponent = decimal.exponent →
    |number.magnitude - decimal.worth| ≤ |number.magnitude - other.worth|
  even : ∀ other : Decimal, number.RoundsFrom other.worth → other.exponent = decimal.exponent →
    |number.magnitude - decimal.worth| = |number.magnitude - other.worth| → other ≠ decimal →
      decimal.digits % 2 = 0

/-- A number is written as its shortest decimal, after a minus sign if it is negative. Zero has a
sign too. -/
inductive Writes (number : Binary64) : List Char → Prop
  | zero (nothing : number.significand = 0) :
      Writes number ((if number.negative then ['-'] else []) ++ ['0', '.', '0'])
  | some {decimal : Decimal} {shown : List Char} (nonzero : 0 < number.significand)
      (shortest : number.IsShortest decimal) (shows : ShownAs decimal.worth shown) :
      Writes number ((if number.negative then ['-'] else []) ++ shown)

variable {number : Binary64} {exponent : ℤ}

/-! ### Powers as fractions -/

theorem powerOfTwo_eq (exponent : ℤ) : 0 < (powerOfTwo exponent).2 ∧
    ((powerOfTwo exponent).1 : ℚ) = 2 ^ exponent * (powerOfTwo exponent).2 := by
  unfold powerOfTwo
  split
  · obtain ⟨power, rfl⟩ := Int.eq_ofNat_of_zero_le ‹_›
    simp
  · obtain ⟨power, whole⟩ := Int.eq_ofNat_of_zero_le (show 0 ≤ -exponent by omega)
    obtain rfl : exponent = -(power : ℤ) := by omega
    simp

theorem gridUnit_eq (exponent : ℤ) : 0 < (gridUnit exponent).2 ∧
    ((gridUnit exponent).1 : ℚ) = 10 ^ exponent * (gridUnit exponent).2 := by
  unfold gridUnit
  split
  · obtain ⟨power, rfl⟩ := Int.eq_ofNat_of_zero_le ‹_›
    simp
  · obtain ⟨power, whole⟩ := Int.eq_ofNat_of_zero_le (show 0 ≤ -exponent by omega)
    obtain rfl : exponent = -(power : ℤ) := by omega
    simp

/-- A quarter of a unit of the number, in parts that are common with the grid. -/
def scale (number : Binary64) (exponent : ℤ) : ℕ :=
  (powerOfTwo (number.exponent - 2)).1 * (gridUnit exponent).2

/-- A step of the grid, in the same parts. -/
def step (number : Binary64) (exponent : ℤ) : ℕ :=
  (powerOfTwo (number.exponent - 2)).2 * (gridUnit exponent).1

/-- How many of the parts make one. -/
def parts (number : Binary64) (exponent : ℤ) : ℕ :=
  (powerOfTwo (number.exponent - 2)).2 * (gridUnit exponent).2

theorem parts_pos (number : Binary64) (exponent : ℤ) : 0 < number.parts exponent :=
  Nat.mul_pos (powerOfTwo_eq _).1 (gridUnit_eq _).1

theorem scale_eq (number : Binary64) (exponent : ℤ) :
    (number.scale exponent : ℚ) = 2 ^ (number.exponent - 2) * number.parts exponent := by
  simp only [scale, parts, Nat.cast_mul, (powerOfTwo_eq _).2]
  ring

theorem step_eq (number : Binary64) (exponent : ℤ) :
    (number.step exponent : ℚ) = 10 ^ exponent * number.parts exponent := by
  simp only [step, parts, Nat.cast_mul, (gridUnit_eq _).2]
  ring

theorem scale_pos (number : Binary64) (exponent : ℤ) : 0 < number.scale exponent := by
  have parts : (0 : ℚ) < number.parts exponent := by exact_mod_cast number.parts_pos exponent
  have scale := number.scale_eq exponent
  have positive : (0 : ℚ) < number.scale exponent := by rw [scale]; positivity
  exact_mod_cast positive

theorem step_pos (number : Binary64) (exponent : ℤ) : 0 < number.step exponent := by
  have parts : (0 : ℚ) < number.parts exponent := by exact_mod_cast number.parts_pos exponent
  have step := number.step_eq exponent
  have positive : (0 : ℚ) < number.step exponent := by rw [step]; positivity
  exact_mod_cast positive

/-! ### The nearest point of a grid -/

/-- The points that fit are those of a range around the middle. -/
structure Around (middle step : ℕ) (fit : ℕ → Bool) : Prop where
  positive : 0 < step
  upwards : ∀ {low high : ℕ}, low ≤ high → high * step ≤ middle → fit low → fit high
  downwards : ∀ {low high : ℕ}, low ≤ high → middle ≤ low * step → fit high → fit low

/-- How far a point of the grid is from the middle. -/
def gap (middle step point : ℕ) : ℕ :=
  (middle - point * step) + (point * step - middle)

/-- The point fits, none that fits is nearer, and it is even where another one is as near. -/
structure Best (middle step : ℕ) (fit : ℕ → Bool) (point : ℕ) : Prop where
  fits : fit point
  nearest : ∀ other, fit other → gap middle step point ≤ gap middle step other
  even : ∀ other, fit other → gap middle step point = gap middle step other → other ≠ point →
    point % 2 = 0

/-- The nearer one of the two points around the middle, if it fits. -/
def nearestFit? (middle step : ℕ) (fit : ℕ → Bool) : Option ℕ :=
  let low := middle / step
  let high := low + 1
  let below := middle - low * step
  let above := high * step - middle
  let lowFits := decide (0 < low) && fit low
  if lowFits && (!fit high || decide (below < above) || (below == above && low % 2 == 0)) then
    some low
  else if fit high then some high
  else none

section Grid

variable {middle step low : ℕ} {fit : ℕ → Bool}

/-- Farther down it is farther from the middle. -/
theorem gap_below (positive : 0 < step) (under : low * step ≤ middle) {other : ℕ} (lower : other ≤ low) :
    gap middle step low ≤ gap middle step other ∧
      (gap middle step low = gap middle step other → other = low) := by
  unfold gap
  rcases Nat.eq_or_lt_of_le lower with rfl | less
  · simp
  · have steps := Nat.mul_le_mul_right step less
    rw [Nat.succ_mul] at steps
    omega

/-- Farther up too. -/
theorem gap_above {high : ℕ} (positive : 0 < step) (ahead : middle ≤ high * step) {other : ℕ}
    (upper : high ≤ other) :
    gap middle step high ≤ gap middle step other ∧
      (gap middle step high = gap middle step other → other = high) := by
  unfold gap
  rcases Nat.eq_or_lt_of_le upper with rfl | more
  · simp
  · have steps := Nat.mul_le_mul_right step more
    rw [Nat.succ_mul] at steps
    omega

/-- A point that fits is the best one, if neither neighbour of the middle that fits is better. -/
theorem best_of_neighbours (around : Around middle step fit) (under : low * step ≤ middle)
    (ahead : middle < (low + 1) * step) {point : ℕ} (fits : fit point)
    (neighbours : ∀ near ∈ [low, low + 1], fit near → gap middle step point ≤ gap middle step near ∧
      (gap middle step point = gap middle step near → near ≠ point → point % 2 = 0)) :
    Best middle step fit point := by
  have beyond {near other : ℕ} (member : near ∈ [low, low + 1]) (isFit : fit near)
      (farther : gap middle step near ≤ gap middle step other ∧
        (gap middle step near = gap middle step other → other = near)) :
      gap middle step point ≤ gap middle step other ∧
        (gap middle step point = gap middle step other → other ≠ point → point % 2 = 0) := by
    obtain ⟨closer, even⟩ := neighbours near member isFit
    refine ⟨closer.trans farther.1, fun equal apart => ?_⟩
    obtain rfl := farther.2 (farther.1.antisymm (equal ▸ closer))
    exact even equal apart
  have sides (other : ℕ) (isFit : fit other) : gap middle step point ≤ gap middle step other ∧
      (gap middle step point = gap middle step other → other ≠ point → point % 2 = 0) := by
    rcases Nat.lt_or_ge low other with above | below
    · exact beyond (by simp) (around.downwards above ahead.le isFit)
        (gap_above around.positive ahead.le above)
    · exact beyond (by simp) (around.upwards below under isFit)
        (gap_below around.positive under below)
  exact ⟨fits, fun other isFit => (sides other isFit).1, fun other isFit => (sides other isFit).2⟩

/-- What is found is the best point, and if nothing is found then nothing fits. -/
theorem nearestFit?_spec (around : Around middle step fit) (zero : fit 0 = false) :
    (∀ point, nearestFit? middle step fit = some point → Best middle step fit point) ∧
      (nearestFit? middle step fit = none → ∀ point, fit point = false) := by
  have under : middle / step * step ≤ middle := Nat.div_mul_le_self middle step
  have ahead : middle < (middle / step + 1) * step := by
    have remains := Nat.div_add_mod' middle step
    have small := Nat.mod_lt middle around.positive
    rw [Nat.add_mul, Nat.one_mul]
    omega
  unfold nearestFit?
  generalize middle / step = low at *
  have gaps : middle - low * step = gap middle step low ∧
      (low + 1) * step - middle = gap middle step (low + 1) := by
    unfold gap
    omega
  have positive (fits : fit low) : 0 < low := by
    refine Nat.pos_of_ne_zero fun none => ?_
    rw [none, zero] at fits
    cases fits
  dsimp only
  rw [gaps.1, gaps.2]
  simp only [Bool.and_eq_true, Bool.or_eq_true, decide_eq_true_eq, Bool.not_eq_true', beq_iff_eq]
  split
  · rename_i chosen
    refine ⟨fun point same => ?_, nofun⟩
    cases same
    refine best_of_neighbours around under ahead chosen.1.2 ?_
    simp only [List.forall_mem_cons]
    refine ⟨fun _ => by simp, fun high => ?_, List.forall_mem_nil _⟩
    rcases chosen.2 with (unfit | less) | ⟨equal, even⟩
    · rw [unfit] at high
      cases high
    · exact ⟨less.le, fun equal => absurd equal less.ne⟩
    · exact ⟨equal.le, fun _ _ => even⟩
  · rename_i passed
    have worse (fits : fit low) : fit (low + 1) = true ∧
        gap middle step (low + 1) ≤ gap middle step low ∧
        (gap middle step (low + 1) = gap middle step low → (low + 1) % 2 = 0) := by
      by_contra better
      refine passed ⟨⟨positive fits, fits⟩, ?_⟩
      cases highFits : fit (low + 1) with
      | false => exact .inl (.inl rfl)
      | true =>
        simp only [highFits, true_and, not_and] at better
        omega
    split
    · rename_i highFits
      refine ⟨fun point same => ?_, nofun⟩
      cases same
      refine best_of_neighbours around under ahead highFits ?_
      simp only [List.forall_mem_cons]
      exact ⟨fun fits => ⟨(worse fits).2.1, fun equal _ => (worse fits).2.2 equal⟩,
        fun _ => by simp, List.forall_mem_nil _⟩
    · rename_i highUnfit
      refine ⟨nofun, fun _ point => Bool.eq_false_iff.mpr fun fits => highUnfit ?_⟩
      rcases Nat.lt_or_ge low point with above | below
      · exact around.downwards above ahead.le fits
      · exact (worse (around.upwards below under fits)).1

end Grid

/-! ### The range of a number -/

/-- Whether a point of the grid is in the range of the number, compared in common parts. -/
def fits (number : Binary64) (exponent : ℤ) (point : ℕ) : Bool :=
  if number.significand % 2 = 0 then
    decide (number.neighbourhood.1 * number.scale exponent ≤ point * number.step exponent ∧
      point * number.step exponent ≤ number.neighbourhood.2.2 * number.scale exponent)
  else
    decide (number.neighbourhood.1 * number.scale exponent < point * number.step exponent ∧
      point * number.step exponent < number.neighbourhood.2.2 * number.scale exponent)

/-- The search on a grid looks for the nearest point that fits. -/
theorem onGrid?_eq (number : Binary64) (exponent : ℤ) :
    number.onGrid? exponent = (nearestFit? (number.neighbourhood.2.1 * number.scale exponent)
      (number.step exponent) (number.fits exponent)).map (⟨·, exponent⟩) := by
  unfold nearestFit?
  dsimp only
  rw [apply_ite (Option.map _), apply_ite (Option.map _)]
  rfl

theorem neighbourhood_spans (nonzero : 0 < number.significand) :
    0 < number.neighbourhood.1 ∧ number.neighbourhood.1 < number.neighbourhood.2.1 ∧
      number.neighbourhood.2.1 < number.neighbourhood.2.2 := by
  unfold neighbourhood
  dsimp only
  split <;> omega

theorem fits_around (nonzero : 0 < number.significand) (exponent : ℤ) :
    Around (number.neighbourhood.2.1 * number.scale exponent) (number.step exponent)
      (number.fits exponent) := by
  obtain ⟨-, least, greatest⟩ := neighbourhood_spans nonzero
  have scale := number.scale_pos exponent
  have below := Nat.mul_lt_mul_of_pos_right least scale
  have above := Nat.mul_lt_mul_of_pos_right greatest scale
  refine ⟨number.step_pos exponent, ?_, ?_⟩
  · intro low high farther under fits
    have steps := Nat.mul_le_mul_right (number.step exponent) farther
    revert fits
    unfold Binary64.fits
    split <;> simp only [decide_eq_true_eq] <;> omega
  · intro low high farther ahead fits
    have steps := Nat.mul_le_mul_right (number.step exponent) farther
    revert fits
    unfold Binary64.fits
    split <;> simp only [decide_eq_true_eq] <;> omega

theorem fits_zero (nonzero : 0 < number.significand) (exponent : ℤ) : number.fits exponent 0 = false := by
  obtain ⟨positive, -, -⟩ := neighbourhood_spans nonzero
  have least := Nat.mul_pos positive (number.scale_pos exponent)
  unfold fits
  split <;> simp only [decide_eq_false_iff_not] <;> omega

/-- Quarters of a unit of the number are compared with steps of the grid in common parts. -/
theorem quarters_le_steps {quarters steps : ℕ} :
    (quarters : ℚ) * 2 ^ (number.exponent - 2) ≤ steps * 10 ^ exponent ↔
      quarters * number.scale exponent ≤ steps * number.step exponent := by
  have parts : (0 : ℚ) < number.parts exponent := by exact_mod_cast number.parts_pos exponent
  rw [← mul_le_mul_iff_left₀ parts, mul_assoc, mul_assoc, ← scale_eq, ← step_eq]
  exact_mod_cast Iff.rfl

theorem steps_le_quarters {quarters steps : ℕ} :
    (steps : ℚ) * 10 ^ exponent ≤ quarters * 2 ^ (number.exponent - 2) ↔
      steps * number.step exponent ≤ quarters * number.scale exponent := by
  have parts : (0 : ℚ) < number.parts exponent := by exact_mod_cast number.parts_pos exponent
  rw [← mul_le_mul_iff_left₀ parts, mul_assoc, mul_assoc, ← scale_eq, ← step_eq]
  exact_mod_cast Iff.rfl

theorem unit_eq (number : Binary64) :
    (2 : ℚ) ^ number.exponent = 4 * 2 ^ (number.exponent - 2) := by
  have split : number.exponent = 2 + (number.exponent - 2) := by omega
  rw [split, zpow_add₀ (by norm_num)]
  norm_num

/-- The range of a number in quarters of its unit. -/
theorem range_eq (nonzero : 0 < number.significand) :
    number.magnitude = number.neighbourhood.2.1 * 2 ^ (number.exponent - 2) ∧
      number.magnitude - number.reach = number.neighbourhood.1 * 2 ^ (number.exponent - 2) ∧
      number.magnitude + 2 ^ number.exponent / 2 =
        number.neighbourhood.2.2 * 2 ^ (number.exponent - 2) := by
  unfold magnitude reach neighbourhood
  simp only [unit_eq, Nat.pow_eq]
  have least (gap : ℕ) (small : gap ≤ 2) : ((4 * number.significand - gap : ℕ) : ℚ) =
      4 * number.significand - gap := by
    rw [Nat.cast_sub (by omega)]
    push_cast
    rfl
  refine ⟨by push_cast; ring, ?_, by push_cast; ring⟩
  split
  · rw [least 1 (by omega)]
    push_cast
    ring
  · rw [least 2 (by omega)]
    push_cast
    ring

theorem roundsFrom_iff (nonzero : 0 < number.significand) {point : ℕ} :
    number.RoundsFrom (point * 10 ^ exponent) ↔ number.fits exponent point = true := by
  obtain ⟨-, least, greatest⟩ := range_eq nonzero
  unfold RoundsFrom fits
  rw [least, greatest]
  split
  · rw [quarters_le_steps, steps_le_quarters, decide_eq_true_eq]
  · rw [lt_iff_not_ge, lt_iff_not_ge, steps_le_quarters, quarters_le_steps, decide_eq_true_eq,
      Nat.not_le, Nat.not_le]

/-! ### Grids with and without points in the range -/

theorem gap_eq (nonzero : 0 < number.significand) (exponent : ℤ) (point : ℕ) :
    |number.magnitude - point * 10 ^ exponent| * number.parts exponent =
      gap (number.neighbourhood.2.1 * number.scale exponent) (number.step exponent) point := by
  have parts : (0 : ℚ) < number.parts exponent := by exact_mod_cast number.parts_pos exponent
  rw [← abs_of_pos parts, ← abs_mul, (range_eq nonzero).1, sub_mul, mul_assoc,
    mul_assoc, ← scale_eq, ← step_eq, gap]
  rcases Nat.le_total (point * number.step exponent)
    (number.neighbourhood.2.1 * number.scale exponent) with under | ahead
  · rw [Nat.sub_eq_zero_of_le under, Nat.add_zero, Nat.cast_sub under, abs_of_nonneg]
    · push_cast
      rfl
    · have cast : ((point * number.step exponent : ℕ) : ℚ) ≤
        (number.neighbourhood.2.1 * number.scale exponent : ℕ) := by exact_mod_cast under
      push_cast at cast
      linarith
  · rw [Nat.sub_eq_zero_of_le ahead, Nat.zero_add, Nat.cast_sub ahead, abs_of_nonpos]
    · push_cast
      ring
    · have cast : ((number.neighbourhood.2.1 * number.scale exponent : ℕ) : ℚ) ≤
        (point * number.step exponent : ℕ) := by exact_mod_cast ahead
      push_cast at cast
      linarith

/-- What is found on a grid is its best point in the range. -/
theorem onGrid?_some (nonzero : 0 < number.significand) {decimal : Decimal}
    (found : number.onGrid? exponent = some decimal) : decimal.exponent = exponent ∧
      Best (number.neighbourhood.2.1 * number.scale exponent) (number.step exponent)
        (number.fits exponent) decimal.digits := by
  rw [onGrid?_eq] at found
  obtain ⟨point, best, rfl⟩ := Option.map_eq_some_iff.mp found
  exact ⟨rfl, (nearestFit?_spec (fits_around nonzero exponent) (fits_zero nonzero exponent)).1 point best⟩

/-- Where nothing is found on a grid, no point of it is in the range. -/
theorem onGrid?_none (nonzero : 0 < number.significand) (nothing : number.onGrid? exponent = none)
    (point : ℕ) : ¬ number.RoundsFrom (point * 10 ^ exponent) := by
  rw [onGrid?_eq, Option.map_eq_none_iff] at nothing
  rw [roundsFrom_iff nonzero, Bool.not_eq_true]
  exact (nearestFit?_spec (fits_around nonzero exponent) (fits_zero nonzero exponent)).2 nothing point

theorem roundsFrom_of_lt {x : ℚ} (above : number.magnitude - number.reach < x)
    (below : x < number.magnitude + 2 ^ number.exponent / 2) : number.RoundsFrom x := by
  unfold RoundsFrom
  split
  · exact ⟨above.le, below.le⟩
  · exact ⟨above, below⟩

theorem le_of_roundsFrom {x : ℚ} (rounds : number.RoundsFrom x) :
    x ≤ number.magnitude + 2 ^ number.exponent / 2 := by
  unfold RoundsFrom at rounds
  split at rounds
  · exact rounds.2
  · exact rounds.2.le

/-- Something is found on a grid whose step is at most a quarter of the unit of the number. -/
theorem onGrid?_fine (nonzero : 0 < number.significand)
    (fine : (10 : ℚ) ^ exponent ≤ 2 ^ (number.exponent - 2)) :
    (number.onGrid? exponent).isSome := by
  rw [← Option.ne_none_iff_isSome]
  intro nothing
  have unit : (0 : ℚ) < 2 ^ number.exponent := by positivity
  have step : (0 : ℚ) < 10 ^ exponent := by positivity
  have magnitude : 0 ≤ number.magnitude := by
    unfold Binary64.magnitude
    positivity
  have quarter : (2 : ℚ) ^ (number.exponent - 2) ≤ number.reach := by
    have units := number.unit_eq
    unfold reach
    split <;> linarith
  -- the point of the grid at the number or next below it
  have under := Nat.floor_le (div_nonneg magnitude step.le)
  have ahead := Nat.lt_floor_add_one (number.magnitude / 10 ^ exponent)
  rw [le_div_iff₀ step] at under
  rw [div_lt_iff₀ step, add_mul, one_mul] at ahead
  refine onGrid?_none nonzero nothing ⌊number.magnitude / 10 ^ exponent⌋₊ (roundsFrom_of_lt ?_ ?_)
  · linarith
  · linarith

/-- No point of a grid is in the range if its step is beyond it. -/
theorem not_roundsFrom_coarse (nonzero : 0 < number.significand) {size : ℕ}
    (small : number.significand < 2 ^ size)
    (coarse : (2 : ℚ) ^ (number.exponent + size) ≤ 10 ^ exponent) (point : ℕ) :
    ¬ number.RoundsFrom (point * 10 ^ exponent) := by
  intro rounds
  rcases Nat.eq_zero_or_pos point with rfl | positive
  · rw [roundsFrom_iff nonzero, fits_zero nonzero] at rounds
    cases rounds
  · have unit : (0 : ℚ) < 2 ^ number.exponent := by positivity
    have step : (0 : ℚ) < 10 ^ exponent := by positivity
    have least : (1 : ℚ) ≤ point := by exact_mod_cast positive
    have bits : (number.significand : ℚ) + 1 ≤ 2 ^ size := by exact_mod_cast small
    have within := le_of_roundsFrom rounds
    rw [zpow_add₀ (by norm_num), zpow_natCast] at coarse
    unfold magnitude at within
    have beyond : (2 : ℚ) ^ number.exponent * (number.significand + 1) ≤ 2 ^ number.exponent * 2 ^ size :=
      mul_le_mul_of_nonneg_left bits unit.le
    have far : (10 : ℚ) ^ exponent ≤ point * 10 ^ exponent := le_mul_of_one_le_left step.le least
    linarith

/-! ### The search -/

theorem ten_zpow_le {power bits : ℤ}
    (enough : 0 ≤ power ∧ 10 * power ≤ 3 * bits ∨ power ≤ 0 ∧ 93 * power ≤ 28 * bits) :
    (10 : ℚ) ^ power ≤ 2 ^ bits := by
  rcases enough with ⟨positive, enough⟩ | ⟨negative, enough⟩
  · obtain ⟨tens, rfl⟩ := Int.eq_ofNat_of_zero_le positive
    have cubes : ((10 : ℚ) ^ (tens : ℤ)) ^ 3 ≤ (2 ^ bits) ^ 3 := by
      calc ((10 : ℚ) ^ (tens : ℤ)) ^ 3 = (10 ^ 3) ^ tens := by
            rw [zpow_natCast, ← pow_mul, ← pow_mul, Nat.mul_comm]
        _ ≤ (2 ^ 10) ^ tens := by gcongr; norm_num
        _ = (2 : ℚ) ^ (10 * (tens : ℤ)) := by rw [← pow_mul]; norm_cast
        _ ≤ 2 ^ (3 * bits) := zpow_le_zpow_right₀ (by norm_num) enough
        _ = (2 ^ bits) ^ 3 := by rw [mul_comm, zpow_mul]; norm_cast
    exact le_of_pow_le_pow_left₀ (by norm_num) (by positivity) cubes
  · obtain ⟨tens, whole⟩ := Int.eq_ofNat_of_zero_le (show 0 ≤ -power by omega)
    obtain rfl : power = -(tens : ℤ) := by omega
    have tops : ((10 : ℚ) ^ (-(tens : ℤ))) ^ 28 ≤ (2 ^ bits) ^ 28 := by
      calc ((10 : ℚ) ^ (-(tens : ℤ))) ^ 28 = ((10 ^ 28) ^ tens)⁻¹ := by
            rw [zpow_neg, inv_pow, zpow_natCast, ← pow_mul, ← pow_mul, Nat.mul_comm]
        _ ≤ ((2 ^ 93) ^ tens)⁻¹ := by gcongr; norm_num
        _ = (2 : ℚ) ^ (93 * -(tens : ℤ)) := by rw [← pow_mul, mul_neg, zpow_neg]; norm_cast
        _ ≤ 2 ^ (28 * bits) := zpow_le_zpow_right₀ (by norm_num) enough
        _ = (2 ^ bits) ^ 28 := by rw [mul_comm, zpow_mul]; norm_cast
    exact le_of_pow_le_pow_left₀ (by norm_num) (by positivity) tops

theorem two_zpow_le {power bits : ℤ}
    (enough : 0 ≤ power ∧ 28 * bits ≤ 93 * power ∨ power ≤ 0 ∧ 3 * bits ≤ 10 * power) :
    (2 : ℚ) ^ bits ≤ 10 ^ power := by
  have inverse : (10 : ℚ) ^ (-power) ≤ 2 ^ (-bits) := ten_zpow_le (by omega)
  rw [zpow_neg, zpow_neg] at inverse
  exact (inv_le_inv₀ (by positivity) (by positivity)).mp inverse

/-- The search ends at the first grid on which something is found. -/
theorem searchGrids_first {count : ℕ} {start : ℤ} {skipped : ℕ} (among : skipped < count)
    (found : (number.onGrid? (start - skipped)).isSome) :
    ∃ passed ≤ skipped, number.onGrid? (start - passed) = some (number.searchGrids count start) ∧
      ∀ earlier < passed, number.onGrid? (start - earlier) = none := by
  induction count generalizing start skipped with
  | zero => exact absurd among (Nat.not_lt_zero _)
  | succ count ih =>
    unfold searchGrids
    cases here : number.onGrid? start with
    | some decimal =>
      refine ⟨0, Nat.zero_le _, by simpa using here, fun earlier less => ?_⟩
      exact absurd less (Nat.not_lt_zero _)
    | none =>
      cases skipped with
      | zero => simp [here] at found
      | succ skipped =>
        have shift (passed : ℕ) : start - 1 - passed = start - (passed + 1 : ℕ) := by
          push_cast
          ring
        rw [← shift] at found
        obtain ⟨passed, within, ends, before⟩ := ih (Nat.lt_of_succ_lt_succ among) found
        refine ⟨passed + 1, Nat.succ_le_succ within, by rw [← shift]; exact ends, ?_⟩
        intro earlier less
        cases earlier with
        | zero => simpa using here
        | succ earlier =>
          rw [← shift]
          exact before earlier (Nat.lt_of_succ_lt_succ less)

/-- What is found on the coarsest grid that has anything in the range is the shortest decimal. -/
theorem isShortest_of_coarsest (nonzero : 0 < number.significand) {decimal : Decimal}
    (found : number.onGrid? exponent = some decimal)
    (coarsest : ∀ coarser > exponent, ∀ point : ℕ, ¬ number.RoundsFrom (point * 10 ^ coarser)) :
    number.IsShortest decimal := by
  obtain ⟨rfl, best⟩ := onGrid?_some nonzero found
  have parts : (0 : ℚ) < number.parts decimal.exponent := by exact_mod_cast number.parts_pos _
  refine ⟨(roundsFrom_iff nonzero).mpr best.fits, fun other rounds => ?_, fun other rounds same => ?_,
    fun other rounds same equal apart => ?_⟩
  · exact Int.not_lt.mp fun coarser => coarsest other.exponent coarser other.digits rounds
  · have fits := (roundsFrom_iff nonzero).mp rounds
    rw [same] at fits
    rw [← mul_le_mul_iff_left₀ parts, Decimal.worth, Decimal.worth, same, gap_eq nonzero, gap_eq nonzero]
    exact_mod_cast best.nearest other.digits fits
  · have fits := (roundsFrom_iff nonzero).mp rounds
    rw [same] at fits
    rw [← mul_left_inj' parts.ne', Decimal.worth, Decimal.worth, same, gap_eq nonzero,
      gap_eq nonzero] at equal
    refine best.even other.digits fits (by exact_mod_cast equal) fun digits => apart ?_
    cases other
    cases decimal
    simp_all

/-- The search finds the shortest decimal of a number. -/
theorem isShortest_shortest (proper : number.Proper) (nonzero : 0 < number.significand) :
    number.IsShortest number.shortest := by
  have few : Nat.log2 number.significand < 53 := (Nat.log2_lt nonzero.ne').mpr proper.significand
  have small : number.significand < 2 ^ (Nat.log2 number.significand + 1) := Nat.lt_log2_self
  obtain ⟨-, least, greatest, -⟩ := proper
  unfold shortest
  dsimp only
  generalize isStart : (number.exponent + (Nat.log2 number.significand : ℤ)) * 30103 / 100000 + 2 = start
  have fine : (number.onGrid? (start - (23 : ℕ))).isSome :=
    onGrid?_fine nonzero (ten_zpow_le (by omega))
  obtain ⟨passed, -, found, before⟩ := searchGrids_first (by decide : 23 < 24) fine
  refine isShortest_of_coarsest nonzero found fun coarser above point => ?_
  rcases Int.lt_or_le start coarser with beyond | within
  · exact not_roundsFrom_coarse nonzero small (two_zpow_le (by push_cast; omega)) point
  · obtain ⟨earlier, rfl⟩ : ∃ earlier : ℕ, coarser = start - earlier :=
      ⟨(start - coarser).toNat, by omega⟩
    exact onGrid?_none nonzero (before earlier (by omega)) point

/-- The shortest decimal has no zero at its end. -/
theorem IsShortest.last {decimal : Decimal} (shortest : number.IsShortest decimal) :
    decimal.digits % 10 ≠ 0 := by
  intro zero
  have tenth : decimal.digits = decimal.digits / 10 * 10 := by omega
  have same : (⟨decimal.digits / 10, decimal.exponent + 1⟩ : Decimal).worth = decimal.worth := by
    rw [Decimal.worth, Decimal.worth, zpow_add_one₀ (by norm_num)]
    conv_rhs => rw [tenth]
    push_cast
    ring
  have coarser := shortest.coarsest ⟨decimal.digits / 10, decimal.exponent + 1⟩ (same ▸ shortest.rounds)
  exact absurd coarser (by simp)

end Binary64

/-! ### Layout -/

namespace Decimal

open Text (numeral)

variable {decimal : Decimal}

/-- The digits of a decimal that has no zero at its end begin and end with other digits. -/
theorem digits_trim (last : decimal.digits % 10 ≠ 0) :
    (numeral decimal.digits).head? ≠ some '0' ∧ (numeral decimal.digits).getLast? ≠ some '0' := by
  constructor
  · intro zero
    have only := (Text.isNumeral_numeral decimal.digits).shortest zero
    have worth := Text.ofDigitChars_numeral decimal.digits
    rw [only] at worth
    exact last (by rw [← worth]; rfl)
  · intro zero
    have ends : (numeral decimal.digits).getLast? = some (Nat.digitChar (decimal.digits % 10)) := by
      rcases Nat.lt_or_ge decimal.digits 10 with small | large
      · rw [Text.numeral_small small, Nat.mod_eq_of_lt small]
        rfl
      · have positive : 0 < decimal.digits / 10 := by omega
        have split := Text.numeral_snoc positive (Nat.mod_lt decimal.digits (by decide))
        rw [Nat.div_add_mod] at split
        rw [split, List.getLast?_append_of_ne_nil _ (by simp)]
        rfl
    rw [ends] at zero
    exact last (Nat.digitChar_eq_zero.mp (Option.some.inj zero))

/-- A decimal is between the powers of ten that the place of its point tells. -/
theorem worth_range (positive : 0 < decimal.digits) {point : ℤ}
    (placed : point = (numeral decimal.digits).length + decimal.exponent) :
    10 ^ (point - 1) ≤ decimal.worth ∧ decimal.worth < 10 ^ point := by
  have some := List.length_pos_iff.mpr (Text.numeral_ne_nil decimal.digits)
  have bound {size : ℕ} (nonzero : 0 < size) :
      (numeral decimal.digits).length ≤ size ↔ decimal.digits < 10 ^ size :=
    Nat.length_toDigits_le_iff (by decide) nonzero
  have upper := (bound some).mp le_rfl
  have lower : 10 ^ ((numeral decimal.digits).length - 1) ≤ decimal.digits := by
    rcases Nat.eq_zero_or_pos ((numeral decimal.digits).length - 1) with one | more
    · rw [one]
      exact positive
    · refine Nat.not_lt.mp fun less => ?_
      have shorter := (bound more).mpr less
      omega
  generalize (numeral decimal.digits).length = size at *
  obtain ⟨size, rfl⟩ := Nat.exists_eq_add_of_lt some
  have step : (0 : ℚ) < 10 ^ decimal.exponent := by positivity
  have low : ((10 : ℚ) ^ (0 + size)) ≤ decimal.digits := by exact_mod_cast lower
  have high : (decimal.digits : ℚ) < 10 ^ (0 + size + 1) := by exact_mod_cast upper
  have front : point - 1 = (0 + size : ℕ) + decimal.exponent := by push_cast at placed ⊢; omega
  have back : point = (0 + size + 1 : ℕ) + decimal.exponent := by exact_mod_cast placed
  rw [worth]
  constructor
  · rw [front, zpow_add₀ (by norm_num), zpow_natCast]
    exact mul_le_mul_of_nonneg_right low step.le
  · rw [back, zpow_add₀ (by norm_num), zpow_natCast]
    exact mul_lt_mul_of_pos_right high step

end Decimal

section Layout

open Text (IsNumeral numeral)

variable {worth : ℚ} {value zeros place : ℕ} {digits : List Char}

/-- Zeros are put behind the digits of a whole number. -/
theorem shownAs_whole (isNumeral : IsNumeral value digits)
    (range : 1 / 10 ^ 5 ≤ worth ∧ worth < 10 ^ 16) (lead : digits.head? ≠ some '0')
    (is : worth = value * 10 ^ zeros) :
    ShownAs worth (digits ++ List.replicate zeros '0' ++ ['.', '0']) := by
  have whole : IsNumeral (10 ^ zeros * value) (digits ++ List.replicate zeros '0') := by
    refine ⟨by simp [isNumeral.nonempty], fun c member => ?_, fun zero => ?_, ?_⟩
    · rcases List.mem_append.mp member with digit | zero
      · exact isNumeral.decimal c digit
      · rw [List.eq_of_mem_replicate zero]
        rfl
    · rw [List.head?_append_of_ne_nil _ isNumeral.nonempty] at zero
      exact absurd zero lead
    · rw [Nat.ofDigitChars_append, Nat.ofDigitChars_replicate_zero, isNumeral.worth]
  refine .fixed range whole (by simp) (by simp) (fun _ => rfl) ?_
  rw [is, Nat.ofDigitChars_append, whole.worth]
  simp [Nat.ofDigitChars_cons]
  ring

/-- The point is put between the digits. -/
theorem shownAs_between (isNumeral : IsNumeral value digits)
    (range : 1 / 10 ^ 5 ≤ worth ∧ worth < 10 ^ 16) (lead : digits.head? ≠ some '0')
    (trail : digits.getLast? ≠ some '0') (some : 0 < place) (within : place < digits.length)
    (is : worth * 10 ^ (digits.length - place) = value) :
    ShownAs worth (digits.take place ++ '.' :: digits.drop place) := by
  have whole : IsNumeral (Nat.ofDigitChars 10 (digits.take place) 0) (digits.take place) := by
    refine ⟨?_, fun c member => isNumeral.decimal c (List.mem_of_mem_take member), fun zero => ?_, rfl⟩
    · simp [isNumeral.nonempty, some.ne']
    · rw [List.head?_take, if_neg some.ne'] at zero
      exact absurd zero lead
  refine .fixed range whole ?_ (fun c member => isNumeral.decimal c (List.mem_of_mem_drop member))
    (fun zero => ?_) ?_
  · simp [within]
  · rw [List.getLast?_drop, if_neg within.not_ge] at zero
    exact absurd zero trail
  · rw [List.take_append_drop, List.length_drop, isNumeral.worth, is]

/-- Zeros are put between the point and the digits. -/
theorem shownAs_small (isNumeral : IsNumeral value digits)
    (range : 1 / 10 ^ 5 ≤ worth ∧ worth < 10 ^ 16) (trail : digits.getLast? ≠ some '0')
    (is : worth * 10 ^ (zeros + digits.length) = value) :
    ShownAs worth ('0' :: '.' :: List.replicate zeros '0' ++ digits) := by
  show ShownAs worth (['0'] ++ '.' :: (List.replicate zeros '0' ++ digits))
  refine .fixed range (Text.isNumeral_numeral 0) (by simp [isNumeral.nonempty])
    (fun c member => ?_) (fun zero => ?_) ?_
  · rcases List.mem_append.mp member with zero | digit
    · rw [List.eq_of_mem_replicate zero]
      rfl
    · exact isNumeral.decimal c digit
  · rw [List.getLast?_append_of_ne_nil _ isNumeral.nonempty] at zero
    exact absurd zero trail
  · rw [List.length_append, List.length_replicate, is, Nat.ofDigitChars_append,
      Nat.ofDigitChars_append, Nat.ofDigitChars_replicate_zero]
    exact_mod_cast isNumeral.worth.symm

/-- An exponent is put behind the digits. -/
theorem shownAs_scientific (isNumeral : IsNumeral value digits)
    (range : worth < 1 / 10 ^ 5 ∨ 10 ^ 16 ≤ worth) (lead : digits.head? ≠ some '0')
    (trail : digits.getLast? ≠ some '0') {power : ℤ}
    (is : worth = value * 10 ^ (power + 1 - digits.length)) :
    ShownAs worth
      ((match digits with | first :: [] => [first] | first :: rest => first :: '.' :: rest | [] => []) ++
        'e' :: (if power < 0 then '-' else '+') :: numeral power.natAbs) := by
  cases digits with
  | nil => exact absurd rfl isNumeral.nonempty
  | cons first rest =>
    have mantissa : (match first :: rest with
        | first :: [] => [first] | first :: rest => first :: '.' :: rest | [] => []) =
        first :: if rest = [] then [] else '.' :: rest := by
      cases rest <;> rfl
    rw [mantissa]
    refine .scientific range isNumeral.decimal (fun zero => lead (by rw [zero]; rfl)) ?_ ?_
      (Text.isNumeral_numeral _)
    · intro zero
      cases rest with
      | nil => cases zero
      | cons next others => exact trail zero
    · rw [is, isNumeral.worth]
      congr 2
      rw [List.length_cons]
      push_cast
      ring

end Layout

namespace Decimal

variable {decimal : Decimal}

theorem worth_mul {places : ℕ} (fractional : decimal.exponent = -(places : ℤ)) :
    decimal.worth * 10 ^ places = decimal.digits := by
  rw [worth, fractional, zpow_neg, zpow_natCast, mul_assoc, inv_mul_cancel₀ (by positivity), mul_one]

/-- A decimal without a zero at its end is shown as it is. -/
theorem shownAs_text (last : decimal.digits % 10 ≠ 0) : ShownAs decimal.worth decimal.text := by
  have positive : 0 < decimal.digits := by omega
  obtain ⟨lead, trail⟩ := digits_trim last
  have isNumeral := Text.isNumeral_numeral decimal.digits
  unfold text
  dsimp only
  generalize placed : ((Text.numeral decimal.digits).length : ℤ) + decimal.exponent = point
  obtain ⟨lower, upper⟩ := worth_range positive placed.symm
  generalize Text.numeral decimal.digits = digits at *
  have some := List.length_pos_iff.mpr isNumeral.nonempty
  have powers {left right : ℤ} (below : left ≤ right) : (10 : ℚ) ^ left ≤ 10 ^ right :=
    zpow_le_zpow_right₀ (by norm_num) below
  have least : (10 : ℚ) ^ (-5 : ℤ) = 1 / 10 ^ 5 := by norm_num
  have greatest : (10 : ℚ) ^ (16 : ℤ) = 10 ^ 16 := by norm_num
  have fixed (small : -5 < point) (large : point ≤ 16) :
      1 / 10 ^ 5 ≤ decimal.worth ∧ decimal.worth < 10 ^ 16 := by
    rw [← least, ← greatest]
    exact ⟨(powers (by omega)).trans lower, upper.trans_le (powers large)⟩
  split
  · rename_i whole
    obtain ⟨zeros, is⟩ := Int.eq_ofNat_of_zero_le whole.1
    refine shownAs_whole isNumeral (fixed (by omega) whole.2) lead ?_
    rw [worth, is]
    rfl
  · split
    · rename_i fractional inside
      exact shownAs_between isNumeral (fixed (by omega) inside.2) lead trail (by omega) (by omega)
        (worth_mul (by omega))
    · split
      · rename_i small
        exact shownAs_small isNumeral (fixed small.1 (by omega)) trail (worth_mul (by omega))
      · refine shownAs_scientific isNumeral ?_ lead trail ?_
        · rw [← least, ← greatest]
          rcases Int.lt_or_le 16 point with large | small
          · exact .inr ((powers (by omega)).trans lower)
          · exact .inl (upper.trans_le (powers (by omega)))
        · have same : point - 1 + 1 - digits.length = decimal.exponent := by omega
          rw [same]
          rfl

end Decimal

/-- The text of a number is its shortest decimal, with its sign. -/
theorem Binary64.writes_text {number : Binary64} (proper : number.Proper) :
    number.Writes number.text := by
  have signed : number.text = (if number.negative then ['-'] else []) ++
      if number.isZero then ['0', '.', '0'] else number.shortest.text := by
    unfold text
    cases number.negative <;> rfl
  rw [signed]
  rcases Nat.eq_zero_or_pos number.significand with nothing | nonzero
  · rw [isZero, nothing]
    exact .zero nothing
  · have some : number.isZero = false := by simpa [isZero] using nonzero.ne'
    rw [some]
    have shortest := isShortest_shortest proper nonzero
    exact .some nonzero shortest (Decimal.shownAs_text shortest.last)

end Caseflow
