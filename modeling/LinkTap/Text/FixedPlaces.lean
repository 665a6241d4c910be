/-
Binary floating-point values written with a fixed number of decimal places.

A finite double is exactly `m * 2 ^ q` for integers `m` and `q`, so its decimal rounding can be
computed without any further rounding error: scale by a power of ten, divide, and round the exact
quotient once. A quotient halfway between two candidates goes to the even one.
-/
set_option autoImplicit false

namespace LinkTap.FixedPlaces

/-- The quotient `num / den` rounded to the nearest integer, a half going to the even neighbour. -/
def roundDiv (num den : Nat) : Nat :=
  let q := num / den
  let twice := 2 * (num % den)
  if twice < den then q
  else if den < twice then q + 1
  else if q % 2 = 0 then q else q + 1

/-- What a double denotes. -/
inductive Decoded where
  /-- No number at all. -/
  | notANumber
  /-- One of the two infinities. -/
  | infinite (negative : Bool)
  /-- The number `mantissa * 2 ^ exponent`, negated if `negative`. -/
  | finite (negative : Bool) (mantissa : Nat) (exponent : Int)

/-- The weight of the bit that a normal number has in front of its 52 fraction bits. -/
def leadingBit : Nat := 0x10000000000000

/-- Split the 64 bits into sign, biased exponent and fraction, and read them. -/
def decode (x : Float) : Decoded :=
  let bits := x.toBits.toNat
  let negative := bits.testBit 63
  let biased : Nat := bits / leadingBit % 2048
  let fraction : Nat := bits % leadingBit
  if biased = 2047 then
    if fraction = 0 then .infinite negative else .notANumber
  else if biased = 0 then .finite negative fraction (-1074)
  else .finite negative (leadingBit + fraction) ((biased : Int) - 1075)

/-- The value `mantissa * 2 ^ exponent` in units of `10 ^ -places`, rounded. -/
def scaled (places mantissa : Nat) (exponent : Int) : Nat :=
  if 0 ≤ exponent then mantissa * Nat.pow 2 exponent.toNat * Nat.pow 10 places
  else roundDiv (mantissa * Nat.pow 10 places) (Nat.pow 2 (-exponent).toNat)

/-- Decimal text of `units * 10 ^ -places`. -/
def ofUnits (places units : Nat) : String :=
  if places = 0 then toString units
  else
    let digits := (toString units).toList
    let padded := List.replicate (places + 1 - digits.length) '0' ++ digits
    let whole := padded.length - places
    String.ofList (padded.take whole ++ '.' :: padded.drop whole)

/-- Decimal text of `x` with exactly `places` digits after the point. The sign of zero is kept. -/
def render (places : Nat) (x : Float) : String :=
  let sign (negative : Bool) : String := if negative then "-" else ""
  match decode x with
  | .notANumber => "NaN"
  | .infinite negative => sign negative ++ "inf"
  | .finite negative m q => sign negative ++ ofUnits places (scaled places m q)

end LinkTap.FixedPlaces
