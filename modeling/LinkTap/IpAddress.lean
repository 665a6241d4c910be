/-
Internet addresses of both versions, and their text.

An IPv4 address is four octets, written in decimal with dots. An IPv6 address is sixteen octets,
read as eight 16-bit groups and written in hexadecimal with colons; the longest run of two or more
zero groups is replaced by `::`, the first such run if several are longest. An IPv6 address that
carries an IPv4 address behind `::ffff:` shows it in dotted form.

The readers accept the same forms: dotted octets without leading zeros, groups of one to four
digits, at most one `::`, which stands for at least one group, and a dotted tail in place of the
last two groups.
-/
import LinkTap.Bytes
import LinkTap.Text.Line
import LinkTap.Text.Numeral

set_option autoImplicit false

namespace LinkTap

/-! ## Version 4 -/

/-- A 32-bit internet address. -/
structure Ipv4Address where
  octets : Vector UInt8 4
  deriving DecidableEq, Repr

namespace Ipv4Address

/-- The address as a byte string, in transmission order. -/
def toBytes (a : Ipv4Address) : Bytes := a.octets.toList

/-- The address in the first four octets of a byte string; missing octets count as zero. -/
def ofBytes (bs : Bytes) : Ipv4Address := ⟨Vector.ofFn fun i => Bytes.octet bs i⟩

/-- Four decimal numbers with dots between them. -/
def text (a : Ipv4Address) : String :=
  String.intercalate "." (a.toBytes.map fun b => toString b.toNat)

/-- One decimal octet of at most three digits and without a leading zero. -/
def parseOctet? (part : List Char) : Option UInt8 :=
  let leadingZero := part.length > 1 && part.head? == some '0'
  if leadingZero || part.length > 3 then none
  else ((Numeral.ofDigits? 10 part).filter (· < 256)).map UInt8.ofNat

/-- Read dotted text. -/
def parse? (cs : List Char) : Option Ipv4Address :=
  match Line.splitOn '.' cs with
  | [a, b, c, d] => do
    return ⟨#v[← parseOctet? a, ← parseOctet? b, ← parseOctet? c, ← parseOctet? d]⟩
  | _ => none

end Ipv4Address

/-! ## Version 6 -/

/-- A 128-bit internet address. -/
structure Ipv6Address where
  octets : Vector UInt8 16
  deriving DecidableEq, Repr

namespace Ipv6Address

/-- The address as a byte string, in transmission order. -/
def toBytes (a : Ipv6Address) : Bytes := a.octets.toList

/-- The address in the first sixteen octets of a byte string; missing octets count as zero. -/
def ofBytes (bs : Bytes) : Ipv6Address := ⟨Vector.ofFn fun i => Bytes.octet bs i⟩

/-- The eight 16-bit groups. -/
def groups (a : Ipv6Address) : List Nat :=
  (List.range 8).map fun i => Bytes.bigEndian (Bytes.field a.toBytes (2 * i) 2)

/-- Length of the run of zeros that begins at position `start`. -/
def zeroRun (groups : List Nat) (start : Nat) : Nat :=
  ((groups.drop start).takeWhile (· = 0)).length

/-- Start and length of the longest run of zeros, the first one among equals. -/
def longestZeroRun (groups : List Nat) : Nat × Nat :=
  (List.range groups.length).foldl
    (fun best start =>
      if best.2 < zeroRun groups start then (start, zeroRun groups start) else best)
    (0, 0)

/-- Groups in hexadecimal with colons between them. -/
def joinGroups (groups : List Nat) : String := String.intercalate ":" (groups.map Numeral.hex)

/-- The IPv4 address behind the prefix `::ffff:`, if the address has that form. -/
def mapped? (a : Ipv6Address) : Option Ipv4Address :=
  if a.groups.take 6 = [0, 0, 0, 0, 0, 0xFFFF] then some (Ipv4Address.ofBytes (a.toBytes.drop 12))
  else none

/-- The shortest customary text. -/
def text (a : Ipv6Address) : String :=
  match a.mapped? with
  | some v4 => "::ffff:" ++ v4.text
  | none =>
    let groups := a.groups
    let (start, length) := longestZeroRun groups
    if length < 2 then joinGroups groups
    else joinGroups (groups.take start) ++ "::" ++ joinGroups (groups.drop (start + length))

/-- One group of one to four hexadecimal digits. -/
def parseGroup? (part : List Char) : Option Nat :=
  if part.length > 4 then none else Numeral.ofDigits? 16 part

/-- Colon-separated groups; with `dotted` the last one may be a dotted IPv4 address. -/
def parseGroups? (dotted : Bool) : List (List Char) → Option (List Nat)
  | [] => some []
  | part :: rest =>
    match parseGroup? part with
    | some g => (parseGroups? dotted rest).map (g :: ·)
    | none =>
      if dotted && rest.isEmpty then
        (Ipv4Address.parse? part).map fun v4 =>
          [ Bytes.bigEndian (Bytes.field v4.toBytes 0 2),
            Bytes.bigEndian (Bytes.field v4.toBytes 2 2) ]
      else none

/-- One side of `::`, or a whole address without it. -/
def parseSide? (dotted : Bool) (cs : List Char) : Option (List Nat) :=
  if cs.isEmpty then some [] else parseGroups? dotted (Line.splitOn ':' cs)

/-- Cut at the first `::`. -/
def cutAtGap : List Char → Option (List Char × List Char)
  | ':' :: ':' :: rest => some ([], rest)
  | c :: rest => (cutAtGap rest).map fun (front, back) => (c :: front, back)
  | [] => none

/-- The address of eight groups. -/
def ofGroups (groups : List Nat) : Ipv6Address :=
  ofBytes (groups.flatMap (Bytes.ofNatBE 2))

/-- Read colon-separated text. -/
def parse? (cs : List Char) : Option Ipv6Address :=
  match cutAtGap cs with
  | none => do
    let groups ← parseSide? true cs
    if groups.length = 8 then some (ofGroups groups) else none
  | some (front, back) => do
    let front ← parseSide? false front
    let back ← parseSide? true back
    let present := front.length + back.length
    if present < 8 then some (ofGroups (front ++ List.replicate (8 - present) 0 ++ back)) else none

end Ipv6Address

/-! ## Either version -/

/-- An internet address of either version. -/
inductive IpAddress where
  | v4 (address : Ipv4Address)
  | v6 (address : Ipv6Address)
  deriving DecidableEq, Repr

namespace IpAddress

def isV4 : IpAddress → Bool
  | v4 _ => true
  | v6 _ => false

def isV6 : IpAddress → Bool
  | v4 _ => false
  | v6 _ => true

/-- The text of the address in the form of its version. -/
def text : IpAddress → String
  | v4 a => a.text
  | v6 a => a.text

/-- Read the text of either form. -/
def parse? (s : String) : Option IpAddress :=
  match Ipv4Address.parse? s.toList with
  | some a => some (v4 a)
  | none => (Ipv6Address.parse? s.toList).map v6

end IpAddress

end LinkTap
