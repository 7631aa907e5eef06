/-! # Decimal fractions

How a decimal fraction is written: with a point between its digits where that stays short, and
with an exponent of ten for very large and very small numbers. -/

namespace RelativeDate.Text

/-- Drop the zeros at the end of a run of digits. -/
def dropTrailingZeros (digits : List Char) : List Char :=
  (digits.reverse.dropWhile (· = '0')).reverse

/-- The digits of a fraction with a point after the first `before` of them. -/
def positional (digits : List Char) (before : Int) : List Char :=
  if before ≤ 0 then '0' :: '.' :: List.replicate (-before).toNat '0' ++ digits
  else
    let whole := digits.take before.toNat
    let rest := digits.drop before.toNat
    whole ++ List.replicate (before.toNat - whole.length) '0' ++ '.'
      :: (if rest = [] then ['0'] else rest)

/-- The digits of a fraction with a point after the first one, and the exponent of ten. -/
def scientific (digits : List Char) (exponent : Int) : List Char :=
  let size := exponent.natAbs.repr.toList
  let fraction := digits.drop 1
  digits.take 1 ++ (if fraction = [] then [] else '.' :: fraction)
    ++ 'e' :: (if exponent < 0 then '-' else '+')
    :: List.replicate (2 - size.length) '0' ++ size

/-- The text of `mantissa / 10 ^ places`. The point is written for sizes from `10 ^ -4` up to
    `10 ^ 16`, and an exponent beyond. -/
def decimalText (mantissa : Int) (places : Nat) : String :=
  let all := mantissa.natAbs.repr.toList
  let before : Int := all.length - places
  let digits := dropTrailingZeros all
  let magnitude :=
    if digits = [] then ['0', '.', '0']
    else if -4 ≤ before - 1 ∧ before - 1 < 16 then positional digits before
    else scientific digits (before - 1)
  String.ofList (if mantissa < 0 then '-' :: magnitude else magnitude)

end RelativeDate.Text
