/-! Finite binary floating-point numbers of 64 bits, held exactly: a sign, a whole significand and a
power of two. Rounding a quotient of natural numbers takes the nearest such number, and of two
equally near ones the one with an even significand. -/
namespace Caseflow

/-- The number `± significand * 2 ^ exponent`. Rounding gives the form with a significand below
`2 ^ 53` and the least exponent, at least `-1074`, that allows it. -/
structure Binary64 where
  negative : Bool
  significand : Nat
  exponent : Int
  deriving DecidableEq, Repr

namespace Binary64

def zero (negative : Bool) : Binary64 :=
  ⟨negative, 0, -1074⟩

/-- The quotient rounded to a whole number; a half goes to the even neighbour. -/
def nearest (num den : Nat) : Nat :=
  let quotient := num / den
  let twice := 2 * (num % den)
  if twice < den then quotient
  else if den < twice then quotient + 1
  else if quotient % 2 = 0 then quotient else quotient + 1

/-- The factor `2 ^ exponent`, as numerator and denominator. -/
def powerOfTwo (exponent : Int) : Nat × Nat :=
  if 0 ≤ exponent then (Nat.pow 2 exponent.toNat, 1) else (1, Nat.pow 2 (-exponent).toNat)

/-- The exponent at which the quotient has 53 significant bits, or the least one. -/
def exponentFor (num den : Nat) : Int :=
  let guess : Int := (Nat.log2 num : Int) - Nat.log2 den - 52
  let unit := powerOfTwo guess
  let enough := Nat.pow 2 52 * (den * unit.1) ≤ num * unit.2
  max (if enough then guess else guess - 1) (-1074)

/-- The number nearest to `num / den`, or `none` if that is out of range. -/
def ofRatio? (negative : Bool) (num den : Nat) : Option Binary64 :=
  if num = 0 then some (zero negative)
  else
    let exponent := exponentFor num den
    let unit := powerOfTwo exponent
    let rounded := nearest (num * unit.2) (den * unit.1)
    let number : Binary64 :=
      if rounded = Nat.pow 2 53 then ⟨negative, Nat.pow 2 52, exponent + 1⟩
      else ⟨negative, rounded, exponent⟩
    if 971 < number.exponent then none else some number

/-- The magnitude as numerator and denominator. -/
def ratio (number : Binary64) : Nat × Nat :=
  let unit := powerOfTwo number.exponent
  (number.significand * unit.1, unit.2)

def isZero (number : Binary64) : Bool :=
  number.significand == 0

/-- The power of ten as a number, for the exponents up to 308. -/
def powerOfTen? (exponent : Nat) : Option Binary64 :=
  if exponent ≤ 308 then ofRatio? false (Nat.pow 10 exponent) 1 else none

/-- The rounded product with a positive number. -/
def mul? (left right : Binary64) : Option Binary64 :=
  let a := left.ratio
  let b := right.ratio
  ofRatio? left.negative (a.1 * b.1) (a.2 * b.2)

/-- The rounded quotient by a positive number. -/
def div? (left right : Binary64) : Option Binary64 :=
  let a := left.ratio
  let b := right.ratio
  ofRatio? left.negative (a.1 * b.2) (a.2 * b.1)

/-- Scales a number by a power of ten, rounding once for each factor of at most `10 ^ 308`. A number
too large is `none`; one too small is zero. -/
def scaleByTen? (number : Binary64) (exponent : Int) : Option Binary64 :=
  if number.isZero then some number
  else if 0 ≤ exponent then
    (powerOfTen? exponent.toNat).bind number.mul?
  else if -308 ≤ exponent then
    (powerOfTen? (-exponent).toNat).bind number.div?
  else if -616 ≤ exponent then do
    let reduced ← (powerOfTen? 308).bind number.div?
    (powerOfTen? (-exponent - 308).toNat).bind reduced.div?
  else some (zero number.negative)

/-- The number that a decimal significand with a power of ten is read as: the significand is rounded
first, then the scaled result. -/
def ofDecimal? (negative : Bool) (significand : Nat) (exponent : Int) : Option Binary64 :=
  (ofRatio? negative significand 1).bind fun number => number.scaleByTen? exponent

end Binary64

end Caseflow
