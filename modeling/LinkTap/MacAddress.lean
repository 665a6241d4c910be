/-
Link-layer addresses: six octets.

The text form is six groups separated by single colons. It is written with two lower-case
hexadecimal digits a group. It is read more freely: a group is any unsigned base-16 numeral of a
value that fits an octet.
-/
import LinkTap.Bytes
import LinkTap.Error
import LinkTap.Text.Line
import LinkTap.Text.Numeral

set_option autoImplicit false

namespace LinkTap

/-- A 48-bit link-layer address. -/
structure MacAddress where
  octets : Vector UInt8 6
  deriving DecidableEq, Repr

namespace MacAddress

/-- The address of every station on the link. -/
def broadcast : MacAddress := ⟨Vector.replicate 6 0xFF⟩

/-- The address with no bit set. -/
def zero : MacAddress := ⟨Vector.replicate 6 0⟩

/-- The address as a byte string, in transmission order. -/
def toBytes (m : MacAddress) : Bytes := m.octets.toList

/-- The address in the first six octets of a byte string. -/
def ofBytes? : Bytes → Option MacAddress
  | a :: b :: c :: d :: e :: f :: _ => some ⟨#v[a, b, c, d, e, f]⟩
  | _ => none

/-- Whether this is the broadcast address. -/
def isBroadcast (m : MacAddress) : Bool := m == broadcast

/-- Whether the group bit, the lowest of the first octet, is set. -/
def isMulticast (m : MacAddress) : Bool := m.octets[0].toNat.testBit 0

/-! ## Text -/

/-- Six pairs of hexadecimal digits with colons between them. -/
def text (m : MacAddress) : String :=
  String.intercalate ":" (m.toBytes.map fun b => Numeral.hexPadded 2 b.toNat)

/-- The refusal of a text that is no address. -/
def malformed (reason : String) : Error := .invalidConfig "mac_address" reason

/-- One group of the text form. -/
def parseOctet (part : List Char) : Except Error UInt8 :=
  match Numeral.unsigned? 16 256 part with
  | some n => .ok (UInt8.ofNat n)
  | none => .error (malformed s!"bad octet '{String.ofList part}'")

/-- Read the text form. With several bad groups the first one is reported. -/
def parse (s : String) : Except Error MacAddress :=
  match Line.splitOn ':' s.toList with
  | [a, b, c, d, e, f] => do
    let a ← parseOctet a
    let b ← parseOctet b
    let c ← parseOctet c
    let d ← parseOctet d
    let e ← parseOctet e
    let f ← parseOctet f
    return ⟨#v[a, b, c, d, e, f]⟩
  | _ => .error (malformed s!"'{s}' is not six colon-separated octets")

end MacAddress

end LinkTap
