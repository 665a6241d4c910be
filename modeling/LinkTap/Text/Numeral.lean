/-
Numerals: how numbers are read from text and written to it.

A numeral is read strictly. At least one digit is required, every character must be a digit of the
base, and a value outside the stated range is refused rather than wrapped. A sign is accepted where
the reader says so: one leading `+` for the unsigned form, one leading `+` or `-` for the signed
form. Leading zeros carry no meaning and are accepted in any number, so a value has many spellings
and exactly one canonical one, which is what the writers below produce.
-/
set_option autoImplicit false

namespace LinkTap.Numeral

/-! ## Reading -/

/-- The value of `c` as a digit of `base`; letters of either case follow the ten decimal digits. -/
def digitValue? (base : Nat) (c : Char) : Option Nat :=
  let value :=
    if '0' ≤ c ∧ c ≤ '9' then some (c.toNat - '0'.toNat)
    else if 'a' ≤ c ∧ c ≤ 'z' then some (c.toNat - 'a'.toNat + 10)
    else if 'A' ≤ c ∧ c ≤ 'Z' then some (c.toNat - 'A'.toNat + 10)
    else none
  value.filter (· < base)

/-- Continue a numeral whose digits so far denote `acc`. -/
def extend? (base : Nat) : Nat → List Char → Option Nat
  | acc, [] => some acc
  | acc, c :: rest =>
    match digitValue? base c with
    | some d => extend? base (acc * base + d) rest
    | none => none

/-- The value of a non-empty run of digits. -/
def ofDigits? (base : Nat) : List Char → Option Nat
  | [] => none
  | cs@(_ :: _) => extend? base 0 cs

/-- An unsigned numeral below `bound`, with an optional leading `+`. -/
def unsigned? (base bound : Nat) : List Char → Option Nat
  | '+' :: digits => (ofDigits? base digits).filter (· < bound)
  | digits => (ofDigits? base digits).filter (· < bound)

/-- A signed decimal numeral `n` with `-bound ≤ n < bound`, with an optional leading sign. -/
def signed? (bound : Nat) : List Char → Option Int
  | '-' :: digits => ((ofDigits? 10 digits).filter (· ≤ bound)).map fun n => -(n : Int)
  | '+' :: digits => ((ofDigits? 10 digits).filter (· < bound)).map Int.ofNat
  | digits => ((ofDigits? 10 digits).filter (· < bound)).map Int.ofNat

/-- A decimal numeral of a 64-bit unsigned word. -/
def word64? (cs : List Char) : Option Nat := unsigned? 10 UInt64.size cs

/-- A decimal numeral of a 64-bit signed word. -/
def int64? (cs : List Char) : Option Int := signed? (UInt64.size / 2) cs

/-! ## Writing -/

/-- The character of a hexadecimal digit, in lower case. -/
def hexDigit (n : Nat) : Char :=
  if n < 10 then Char.ofNat ('0'.toNat + n) else Char.ofNat ('a'.toNat + (n - 10))

/-- The lowest `width` hexadecimal digits of `n`, most significant first. -/
def hexDigits : Nat → Nat → List Char
  | 0, _ => []
  | width + 1, n => hexDigits width (n / 16) ++ [hexDigit (n % 16)]

/-- How many hexadecimal digits `n` needs; zero needs one. -/
def hexLength (n : Nat) : Nat := if n = 0 then 1 else n.log2 / 4 + 1

/-- Hexadecimal text without leading zeros. -/
def hex (n : Nat) : String := String.ofList (hexDigits (hexLength n) n)

/-- Hexadecimal text of exactly `width` digits. -/
def hexPadded (width n : Nat) : String := String.ofList (hexDigits width n)

/-- Decimal text padded with zeros on the left to at least `width` digits. -/
def decimalPadded (width n : Nat) : String :=
  let digits := (toString n).toList
  String.ofList (List.replicate (width - digits.length) '0' ++ digits)

end LinkTap.Numeral
