import Caseflow.Decimal.Binary64
import Caseflow.Text.Numeral
/-! The decimal text of a binary floating-point number: the fewest digits that read back as the
number, and of those the nearest to it. -/
namespace Caseflow

/-- A decimal number `digits * 10 ^ exponent`. -/
structure Decimal where
  digits : Nat
  exponent : Int
  deriving DecidableEq, Repr

namespace Binary64

/-- The factor `10 ^ exponent`, as numerator and denominator. -/
def gridUnit (exponent : Int) : Nat × Nat :=
  if 0 ≤ exponent then (Nat.pow 10 exponent.toNat, 1) else (1, Nat.pow 10 (-exponent).toNat)

/-- Four times the significand and the bounds, on the same scale, of the reals that round to the
number: half a unit either way, but a quarter below a power of two. -/
def neighbourhood (number : Binary64) : Nat × Nat × Nat :=
  let middle := 4 * number.significand
  let below := if number.significand = Nat.pow 2 52 ∧ -1074 < number.exponent then 1 else 2
  (middle - below, middle, middle + 2)

/-- The point of the grid of multiples of `10 ^ exponent` that reads back as the number and is
nearest to it, if the grid has one. -/
def onGrid? (number : Binary64) (exponent : Int) : Option Decimal :=
  let unit := powerOfTwo (number.exponent - 2)
  let grid := gridUnit exponent
  let scale := unit.1 * grid.2
  let step := unit.2 * grid.1
  let (least, middle, greatest) := number.neighbourhood
  let readsBack (digits : Nat) : Bool :=
    if number.significand % 2 = 0 then
      decide (least * scale ≤ digits * step ∧ digits * step ≤ greatest * scale)
    else
      decide (least * scale < digits * step ∧ digits * step < greatest * scale)
  let low := middle * scale / step
  let high := low + 1
  let below := middle * scale - low * step
  let above := high * step - middle * scale
  let lowFits := decide (0 < low) && readsBack low
  if lowFits && (!readsBack high || decide (below < above) || (below == above && low % 2 == 0)) then
    some ⟨low, exponent⟩
  else if readsBack high then some ⟨high, exponent⟩
  else none

/-- The first hit on the grids with this exponent and the `count` finer ones below it. -/
def searchGrids (number : Binary64) : Nat → Int → Decimal
  | 0, exponent => ⟨0, exponent⟩
  | count + 1, exponent =>
    match number.onGrid? exponent with
    | some found => found
    | none => searchGrids number count (exponent - 1)

/-- The shortest decimal that reads back as a number other than zero. -/
def shortest (number : Binary64) : Decimal :=
  let size : Int := number.exponent + Nat.log2 number.significand
  number.searchGrids 24 (size * 30103 / 100000 + 2)

end Binary64

namespace Decimal

/-- Positional notation for magnitudes from `1e-5` to below `1e16`, always with a point; otherwise
one digit before the point and a signed exponent of no fixed width. -/
def text (number : Decimal) : List Char :=
  let digits := Text.numeral number.digits
  let point : Int := digits.length + number.exponent
  if 0 ≤ number.exponent ∧ point ≤ 16 then
    digits ++ List.replicate number.exponent.toNat '0' ++ ['.', '0']
  else if 0 < point ∧ point ≤ 16 then
    digits.take point.toNat ++ '.' :: digits.drop point.toNat
  else if -5 < point ∧ point ≤ 0 then
    '0' :: '.' :: List.replicate (-point).toNat '0' ++ digits
  else
    let mantissa := match digits with
      | first :: [] => [first]
      | first :: rest => first :: '.' :: rest
      | [] => []
    let power := point - 1
    mantissa ++ 'e' :: (if power < 0 then '-' else '+') :: Text.numeral power.natAbs

end Decimal

namespace Binary64

/-- The decimal text; zero keeps its sign. -/
def text (number : Binary64) : List Char :=
  let magnitude := if number.isZero then ['0', '.', '0'] else number.shortest.text
  if number.negative then '-' :: magnitude else magnitude

end Binary64

end Caseflow
