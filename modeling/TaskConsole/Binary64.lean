/-!
# Binary floating point with 53 bits — exact values, rounded to nearest

A finite number is kept as what it is, an integer times a power of two, so that
every question about its value is a question about integers.

* `Binary64` — a sign, a significand below 2⁵³ and an exponent of two;
* `Binary64.ofRatio?` — a quotient of natural numbers rounded to the nearest
  representable one, a tie to the even significand; nothing on overflow;
* `Binary64.truncate`, `Binary64.isNonnegative` — the integer part, and the sign of the value;
* `Binary64.minus`, `Binary64.product`, `Binary64.quotient`, `Binary64.root` — a difference,
  a product, a quotient and a square root, rounded in the same way. -/

namespace TaskConsole

/-- A finite number `± significand · 2 ^ exponent`. -/
structure Binary64 where
  negative : Bool
  significand : Nat
  -- the power of two by which they count
  exponent : Int
  -- there are at most 53 bits: the bound is 2⁵³
  significand_lt : significand < 9007199254740992
  exponent_mem : -1074 ≤ exponent ∧ exponent ≤ 971
  deriving DecidableEq

namespace Binary64

/-- A quotient rounded to the nearest natural number, a tie to the even one. -/
def roundDiv (num den : Nat) : Nat :=
  let q := num / den
  let r := num % den
  if 2 * r < den then q
  else if 2 * r > den then q + 1
  else if q % 2 = 0 then q else q + 1

/-- A quotient with the denominator scaled by a power of two, or the numerator by
its inverse. -/
def scaleRatio (num den : Nat) (exponent : Int) : Nat × Nat :=
  (num <<< (-exponent).toNat, den <<< exponent.toNat)

/-- The exponent at which a positive quotient has 53 bits before the point, or the
least exponent of the format. -/
def exponentFor (num den : Nat) : Int :=
  let guess := max (-1074) ((num.log2 : Int) - den.log2 - 53)
  let (n, d) := scaleRatio num den guess
  if 9007199254740992 ≤ n / d then guess + 1 else guess

/-- The number with a significand of up to 2⁵³, the top value moved to the next
exponent; nothing beyond the largest finite number. -/
def pack? (negative : Bool) (significand : Nat) (exponent : Int) : Option Binary64 :=
  if hs : significand < 9007199254740992 then
    if he : -1074 ≤ exponent ∧ exponent ≤ 971 then
      some { negative, significand, exponent, significand_lt := hs, exponent_mem := he }
    else none
  else if he : -1074 ≤ exponent + 1 ∧ exponent + 1 ≤ 971 then
    some { negative, significand := 4503599627370496, exponent := exponent + 1,
           significand_lt := by decide, exponent_mem := he }
  else none

/-- The representable number nearest to a quotient; nothing when that is infinite. -/
def ofRatio? (negative : Bool) (num den : Nat) : Option Binary64 :=
  let exponent := exponentFor num den
  let (n, d) := scaleRatio num den exponent
  pack? negative (roundDiv n d) exponent

/-- Zero, with a sign. -/
def zero (negative : Bool) : Binary64 where
  negative := negative
  significand := 0
  exponent := 0
  significand_lt := by decide
  exponent_mem := by decide

/-- The magnitude as a quotient of natural numbers. -/
def ratio (x : Binary64) : Nat × Nat :=
  (x.significand <<< x.exponent.toNat, 1 <<< (-x.exponent).toNat)

/-- The magnitude without its fraction. -/
def floorMagnitude (x : Binary64) : Nat := x.ratio.1 / x.ratio.2

/-- The number rounded toward zero. -/
def truncate (x : Binary64) : Int :=
  if x.negative then -(x.floorMagnitude : Int) else x.floorMagnitude

/-- A number is not below zero: it has no sign, or it is a zero with one. -/
def isNonnegative (x : Binary64) : Bool := !x.negative || x.significand == 0

/-- A product, rounded; nothing on overflow. The sign is that of the first factor. -/
def times? (x y : Binary64) : Option Binary64 :=
  ofRatio? x.negative (x.ratio.1 * y.ratio.1) (x.ratio.2 * y.ratio.2)

/-- A quotient, rounded; nothing on overflow. The sign is that of the dividend. -/
def over? (x y : Binary64) : Option Binary64 :=
  ofRatio? x.negative (x.ratio.1 * y.ratio.2) (x.ratio.2 * y.ratio.1)

/-- A natural number, rounded; zero beyond the largest finite number. -/
def ofRatio (num den : Nat) : Binary64 := (ofRatio? false num den).getD (zero false)

/-- Magnitudes compared. -/
def magnitudeLe (x y : Binary64) : Bool := x.ratio.1 * y.ratio.2 ≤ y.ratio.1 * x.ratio.2

/-- The first magnitude less the second, rounded; zero when the second is greater. -/
def minus (x y : Binary64) : Binary64 :=
  ofRatio (x.ratio.1 * y.ratio.2 - y.ratio.1 * x.ratio.2) (x.ratio.2 * y.ratio.2)

/-- The product of two magnitudes, rounded. -/
def product (x y : Binary64) : Binary64 :=
  ofRatio (x.ratio.1 * y.ratio.1) (x.ratio.2 * y.ratio.2)

/-- The quotient of two magnitudes, rounded. -/
def quotient (x y : Binary64) : Binary64 :=
  ofRatio (x.ratio.1 * y.ratio.2) (x.ratio.2 * y.ratio.1)

/-- The greatest number whose square is not above a number. -/
def floorRoot (n : Nat) : Nat :=
  if n = 0 then 0
  else
    let r := 2 * floorRoot (n / 4)
    if (r + 1) * (r + 1) ≤ n then r + 1 else r
termination_by n
decreasing_by omega

/-- The square root of a magnitude, rounded.  The root of the magnitude times 2¹²⁴⁰ is a
natural number of more than 54 bits, and a last bit says whether it is exact. -/
def root (x : Binary64) : Binary64 :=
  let scaled := (x.ratio.1 <<< 1240) / x.ratio.2
  let r := floorRoot scaled
  ofRatio (2 * r + if r * r = scaled then 0 else 1) (1 <<< 621)

end Binary64

end TaskConsole
