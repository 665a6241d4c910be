/-
Small operations on text by character: splitting, trimming, padding to a column, ASCII case.
-/
set_option autoImplicit false

namespace LinkTap.Line

/-- The parts between consecutive separators; `n` separators make `n + 1` parts. -/
def splitOn (sep : Char) : List Char → List (List Char)
  | [] => [[]]
  | c :: rest =>
    if c = sep then [] :: splitOn sep rest
    else
      match splitOn sep rest with
      | [] => [[c]]
      | part :: parts => (c :: part) :: parts

/-- The characters with the Unicode property White_Space. -/
def isBlank (c : Char) : Bool :=
  let n := c.toNat
  (9 ≤ n && n ≤ 13) || n = 0x20 || n = 0x85 || n = 0xA0 || n = 0x1680
    || (0x2000 ≤ n && n ≤ 0x200A) || n = 0x2028 || n = 0x2029 || n = 0x202F || n = 0x205F
    || n = 0x3000

/-- Drop the blanks at both ends. -/
def trim (cs : List Char) : List Char :=
  ((cs.dropWhile isBlank).reverse.dropWhile isBlank).reverse

/-- Fill up with blanks on the left to `width` characters; longer text is kept whole. -/
def padLeft (width : Nat) (s : String) : String :=
  String.ofList (List.replicate (width - s.length) ' ') ++ s

/-- Fill up with blanks on the right to `width` characters; longer text is kept whole. -/
def padRight (width : Nat) (s : String) : String :=
  s ++ String.ofList (List.replicate (width - s.length) ' ')

/-- Replace ASCII capitals by their small letters and keep every other character. -/
def toLower (s : String) : String := String.ofList (s.toList.map Char.toLower)

/-- Equality that disregards the case of ASCII letters. -/
def sameIgnoringCase (s t : String) : Bool := toLower s == toLower t

/-- The lines of a text in which every line ends with a line feed. -/
def unlines (lines : List String) : String := String.join (lines.map (· ++ "\n"))

end LinkTap.Line
