/-
# Double precision

Arithmetic in double precision is exact arithmetic whose result is rounded to the
nearest number with 53 binary digits, to an even last digit between two of them.
Numbers too large or too small for the exponent do not come up here.
-/

import Mathlib.Data.Int.Log
import Mathlib.Data.Rat.Floor

namespace Sllurp.Foundations.Binary64

/-- The nearest integer, the even one between two. -/
def roundToEven (number : ℚ) : ℤ :=
  let below := ⌊number⌋
  let rest := number - below
  if rest < 1 / 2 then below
  else if 1 / 2 < rest then below + 1
  else if below % 2 = 0 then below
  else below + 1

/-- What the last of 53 binary digits of a number stands for. -/
def lastPlace (number : ℚ) : ℚ := 2 ^ (Int.log 2 |number| - 52)

/-- The nearest number in double precision. -/
def round (number : ℚ) : ℚ :=
  if number = 0 then 0 else roundToEven (number / lastPlace number) * lastPlace number

example : round (101 / 10 - 102 / 10) = -3602879701896397 / 36028797018963968 := by
  decide +kernel

end Sllurp.Foundations.Binary64
