/-
Dissecting a frame reads inside the frame.

Reading past the end of a byte string is harmless in the decoders, where a missing octet counts as
zero and a cut that is too long is cut short. To see that nothing ever depends on this, the decoders
are written out once more with accesses that have no answer when they are out of bounds, and with
the offset of the layer at hand carried along. Every access is answered, and the answer is the same:
the bound of each access follows from the length that was checked before it, and the offset stays
inside the frame because a header that was decoded reaches no further than the octets behind the
offset.
-/
import LinkTap.Proofs.Frame.Headers

set_option autoImplicit false

namespace LinkTap

/-! ## Accesses -/

namespace Bytes

/-- The octet at an index in bounds. -/
def octet? (bs : Bytes) (i : Nat) : Option UInt8 := bs[i]?

/-- The `width` octets from an index on, all of them in bounds. -/
def slice? (bs : Bytes) (start width : Nat) : Option Bytes :=
  if start + width ≤ bs.length then some (bs.field start width) else none

/-- The octets from an index in bounds on. -/
def from? (bs : Bytes) (start : Nat) : Option Bytes :=
  if start ≤ bs.length then some (bs.drop start) else none

/-- A word of two octets in bounds. -/
def be16? (bs : Bytes) (start : Nat) : Option UInt16 :=
  (bs.slice? start 2).map fun word => UInt16.ofNat (bigEndian word)

/-- A word of four octets in bounds. -/
def be32? (bs : Bytes) (start : Nat) : Option UInt32 :=
  (bs.slice? start 4).map fun word => UInt32.ofNat (bigEndian word)

variable {bs : Bytes} {i start width : Nat}

/-- Within bounds a checked access is the plain one. -/
theorem octet?_eq (h : i < bs.length) : bs.octet? i = some (bs.octet i) := by
  rw [octet?, octet, List.getD_eq_getElem?_getD, List.getElem?_eq_getElem h, Option.getD_some]

theorem slice?_eq (h : start + width ≤ bs.length) :
    bs.slice? start width = some (bs.field start width) := if_pos h

theorem from?_eq (h : start ≤ bs.length) : bs.from? start = some (bs.drop start) := if_pos h

theorem be16?_eq (h : start + 2 ≤ bs.length) : bs.be16? start = some (bs.be16 start) := by
  rw [be16?, slice?_eq h]
  rfl

theorem be32?_eq (h : start + 4 ≤ bs.length) : bs.be32? start = some (bs.be32 start) := by
  rw [be32?, slice?_eq h]
  rfl

/-- An octet of a field is an octet of the string behind its start. -/
theorem octet_field (h : i < width) : octet (bs.field start width) i = octet (bs.drop start) i := by
  unfold octet field
  rw [List.getD_eq_getElem?_getD, List.getD_eq_getElem?_getD, List.getElem?_take_of_lt h]

end Bytes

/-- An address is read from its own four octets. -/
theorem Ipv4Address.ofBytes_field (bs : Bytes) (start : Nat) :
    ofBytes (bs.field start 4) = ofBytes (bs.drop start) := by
  unfold ofBytes
  congr 2
  funext i
  exact Bytes.octet_field i.isLt

/-- An address is read from its own sixteen octets. -/
theorem Ipv6Address.ofBytes_field (bs : Bytes) (start : Nat) :
    ofBytes (bs.field start 16) = ofBytes (bs.drop start) := by
  unfold ofBytes
  congr 2
  funext i
  exact Bytes.octet_field i.isLt

/-- An address is read from six octets, whatever follows them. -/
theorem MacAddress.ofBytes?_field (bs : Bytes) (start : Nat) :
    ofBytes? (bs.field start 6) = ofBytes? (bs.drop start) := by
  unfold Bytes.field
  match bs.drop start with
  | [] | [_] | [_, _] | [_, _, _] | [_, _, _, _] | [_, _, _, _, _] => rfl
  | _ :: _ :: _ :: _ :: _ :: _ :: _ => rfl

namespace Frame

/-! ## Decoders -/

/-- The Ethernet decoder with checked accesses. The outer option is empty if one is out of bounds.
-/
def Ethernet.checked? (bs : Bytes) : Option (Option Ethernet) :=
  if bs.length < headerLength then some none
  else do
    let destination ← bs.slice? 0 6
    let source ← bs.slice? 6 6
    let word ← bs.be16? 12
    return do
      let destination ← MacAddress.ofBytes? destination
      let source ← MacAddress.ofBytes? source
      return { destination, source, etherType := EtherType.ofWord word }

/-- The length is checked first, so no access of this decoder fails. -/
theorem Ethernet.checked?_eq (bs : Bytes) : checked? bs = some (ofBytes? bs) := by
  by_cases hshort : bs.length < headerLength
  · rw [checked?, ofBytes?, if_pos hshort, if_pos hshort]
  · have hlength : 14 ≤ bs.length := Nat.not_lt.mp hshort
    rw [checked?, ofBytes?, if_neg hshort, if_neg hshort]
    rw [Bytes.slice?_eq (by omega), Bytes.slice?_eq (by omega), Bytes.be16?_eq (by omega)]
    simp only [Option.bind_eq_bind, Option.bind_some, MacAddress.ofBytes?_field, List.drop_zero]
    rfl

/-- The octet that declares the length is read before the
length is checked against the whole string. -/
def Ipv4.checked? (bs : Bytes) : Option (Option Ipv4) :=
  if bs.length < minHeaderLength then some none
  else do
    let first ← bs.octet? 0
    let declared := (first % 16).toNat * 4
    if declared < minHeaderLength ∨ bs.length < declared then return none
    else
      let fragment ← bs.be16? 6
      let tos ← bs.octet? 1
      let totalLength ← bs.be16? 2
      let identification ← bs.be16? 4
      let ttl ← bs.octet? 8
      let protocol ← bs.octet? 9
      let checksum ← bs.be16? 10
      let source ← bs.slice? 12 4
      let destination ← bs.slice? 16 4
      return some
        { version := first / 16
          ihl := first % 16
          tos
          totalLength
          identification
          flags := IpFlags.ofBits (fragment.toNat / 0x2000)
          fragmentOffset := fragment % 0x2000
          ttl
          protocol := IpProtocol.ofByte protocol
          checksum
          source := Ipv4Address.ofBytes source
          destination := Ipv4Address.ofBytes destination }

theorem Ipv4.checked?_eq (bs : Bytes) : checked? bs = some (ofBytes? bs) := by
  unfold checked? ofBytes?
  by_cases hshort : bs.length < minHeaderLength
  · rw [if_pos hshort]
    dsimp only
    rw [if_pos (.inl hshort)]
  have hlength : 20 ≤ bs.length := Nat.not_lt.mp hshort
  rw [if_neg hshort, Bytes.octet?_eq (by omega)]
  dsimp only [Option.bind_eq_bind, Option.bind_some]
  by_cases hdeclared : (bs.octet 0 % 16).toNat * 4 < minHeaderLength
      ∨ bs.length < (bs.octet 0 % 16).toNat * 4
  · rw [if_pos hdeclared, if_pos (.inr hdeclared)]
    rfl
  · have haccept : ¬ (bs.length < minHeaderLength ∨ (bs.octet 0 % 16).toNat * 4 < minHeaderLength
        ∨ bs.length < (bs.octet 0 % 16).toNat * 4) := not_or.mpr ⟨hshort, hdeclared⟩
    rw [if_neg hdeclared, if_neg haccept]
    -- All further accesses lie in the fixed part.
    simp (disch := omega) only [Bytes.octet?_eq, Bytes.be16?_eq, Bytes.slice?_eq, Option.bind_some,
      Ipv4Address.ofBytes_field]
    rfl

def Ipv6.checked? (bs : Bytes) : Option (Option Ipv6) :=
  if bs.length < headerLength then some none
  else do
    let word ← bs.be32? 0
    let source ← bs.slice? 8 16
    let destination ← bs.slice? 24 16
    let payloadLength ← bs.be16? 4
    let nextHeader ← bs.octet? 6
    let hopLimit ← bs.octet? 7
    return some
      { version := UInt8.ofNat (word.toNat / 0x10000000)
        trafficClass := UInt8.ofNat (word.toNat / 0x100000)
        flowLabel := UInt32.ofNat (word.toNat % 0x100000)
        payloadLength
        nextHeader := IpProtocol.ofByte nextHeader
        hopLimit
        source := Ipv6Address.ofBytes source
        destination := Ipv6Address.ofBytes destination }

theorem Ipv6.checked?_eq (bs : Bytes) : checked? bs = some (ofBytes? bs) := by
  unfold checked? ofBytes?
  by_cases hshort : bs.length < headerLength
  · rw [if_pos hshort, if_pos hshort]
  · have hlength : 40 ≤ bs.length := Nat.not_lt.mp hshort
    rw [if_neg hshort, if_neg hshort]
    simp (disch := omega) only [Bytes.octet?_eq, Bytes.be16?_eq, Bytes.be32?_eq, Bytes.slice?_eq,
      Option.bind_eq_bind, Option.bind_some, Ipv6Address.ofBytes_field]
    rfl

/-- As for IPv4, the octet that declares the length is read first. -/
def Tcp.checked? (bs : Bytes) : Option (Option Tcp) :=
  if bs.length < minHeaderLength then some none
  else do
    let word ← bs.octet? 12
    let offset := word / 16
    let declared := offset.toNat * 4
    if declared < minHeaderLength ∨ bs.length < declared then return none
    else
      let sourcePort ← bs.be16? 0
      let destinationPort ← bs.be16? 2
      let sequence ← bs.be32? 4
      let acknowledgment ← bs.be32? 8
      let flags ← bs.octet? 13
      let window ← bs.be16? 14
      let checksum ← bs.be16? 16
      let urgentPointer ← bs.be16? 18
      return some
        { sourcePort
          destinationPort
          sequence
          acknowledgment
          dataOffset := offset
          flags := TcpFlags.ofByte flags
          window
          checksum
          urgentPointer }

theorem Tcp.checked?_eq (bs : Bytes) : checked? bs = some (ofBytes? bs) := by
  unfold checked? ofBytes?
  by_cases hshort : bs.length < minHeaderLength
  · rw [if_pos hshort]
    dsimp only
    rw [if_pos (.inl hshort)]
  have hlength : 20 ≤ bs.length := Nat.not_lt.mp hshort
  rw [if_neg hshort, Bytes.octet?_eq (by omega)]
  dsimp only [Option.bind_eq_bind, Option.bind_some]
  by_cases hdeclared : (bs.octet 12 / 16).toNat * 4 < minHeaderLength
      ∨ bs.length < (bs.octet 12 / 16).toNat * 4
  · rw [if_pos hdeclared, if_pos (.inr hdeclared)]
    rfl
  · have haccept : ¬ (bs.length < minHeaderLength ∨ (bs.octet 12 / 16).toNat * 4 < minHeaderLength
        ∨ bs.length < (bs.octet 12 / 16).toNat * 4) := not_or.mpr ⟨hshort, hdeclared⟩
    rw [if_neg hdeclared, if_neg haccept]
    simp (disch := omega) only [Bytes.octet?_eq, Bytes.be16?_eq, Bytes.be32?_eq, Option.bind_some]
    rfl

def Udp.checked? (bs : Bytes) : Option (Option Udp) :=
  if bs.length < headerLength then some none
  else do
    let sourcePort ← bs.be16? 0
    let destinationPort ← bs.be16? 2
    let length ← bs.be16? 4
    let checksum ← bs.be16? 6
    return some { sourcePort, destinationPort, length, checksum }

theorem Udp.checked?_eq (bs : Bytes) : checked? bs = some (ofBytes? bs) := by
  unfold checked? ofBytes?
  by_cases hshort : bs.length < headerLength
  · rw [if_pos hshort, if_pos hshort]
  · have hlength : 8 ≤ bs.length := Nat.not_lt.mp hshort
    rw [if_neg hshort, if_neg hshort]
    simp (disch := omega) only [Bytes.be16?_eq, Option.bind_eq_bind, Option.bind_some]
    rfl

/-! ## Layers -/

/-- The header that `etherType` announces at an offset of the frame, and the offset behind it. -/
def Network.checkedAt? (etherType : EtherType) (frame : Bytes) (offset : Nat) :
    Option (Option Network × Nat) :=
  match etherType with
  | .ipv4 => do
    let rest ← frame.from? offset
    match ← Ipv4.checked? rest with
    | none => return (none, offset)
    | some h => return (some (.ipv4 h), offset + h.headerLength)
  | .ipv6 => do
    let rest ← frame.from? offset
    match ← Ipv6.checked? rest with
    | none => return (none, offset)
    | some h => return (some (.ipv6 h), offset + Ipv6.headerLength)
  | _ => return (none, offset)

/-- A decoder that is handed what lies behind an offset stays in bounds if the offset does. -/
theorem Network.checkedAt?_eq (etherType : EtherType) {frame : Bytes} {offset : Nat}
    (h : offset ≤ frame.length) :
    checkedAt? etherType frame offset
      = some (ofBytes? etherType (frame.drop offset),
          offset + ((ofBytes? etherType (frame.drop offset)).map headerLength).getD 0) := by
  unfold checkedAt? ofBytes?
  cases etherType with
  | ipv4 =>
    dsimp only
    rw [Bytes.from?_eq h, Option.bind_eq_bind, Option.bind_some, Ipv4.checked?_eq]
    cases Ipv4.ofBytes? (frame.drop offset) <;> rfl
  | ipv6 =>
    dsimp only
    rw [Bytes.from?_eq h, Option.bind_eq_bind, Option.bind_some, Ipv6.checked?_eq]
    cases Ipv6.ofBytes? (frame.drop offset) <;> rfl
  | arp | vlan | lldp | other _ => rfl

/-- The header that `protocol` announces at an offset of the frame, and the offset behind it. -/
def Transport.checkedAt? (protocol : IpProtocol) (frame : Bytes) (offset : Nat) :
    Option (Option Transport × Nat) :=
  match protocol with
  | .tcp => do
    let rest ← frame.from? offset
    match ← Tcp.checked? rest with
    | none => return (none, offset)
    | some h => return (some (.tcp h), offset + h.headerLength)
  | .udp => do
    let rest ← frame.from? offset
    match ← Udp.checked? rest with
    | none => return (none, offset)
    | some h => return (some (.udp h), offset + Udp.headerLength)
  | _ => return (none, offset)

theorem Transport.checkedAt?_eq (protocol : IpProtocol) {frame : Bytes} {offset : Nat}
    (h : offset ≤ frame.length) :
    checkedAt? protocol frame offset
      = some (ofBytes? protocol (frame.drop offset),
          offset + ((ofBytes? protocol (frame.drop offset)).map headerLength).getD 0) := by
  unfold checkedAt? ofBytes?
  cases protocol with
  | tcp =>
    dsimp only
    rw [Bytes.from?_eq h, Option.bind_eq_bind, Option.bind_some, Tcp.checked?_eq]
    cases Tcp.ofBytes? (frame.drop offset) <;> rfl
  | udp =>
    dsimp only
    rw [Bytes.from?_eq h, Option.bind_eq_bind, Option.bind_some, Udp.checked?_eq]
    cases Udp.ofBytes? (frame.drop offset) <;> rfl
  | icmp | igmp | icmpv6 | other _ => rfl

/-- Take a frame apart with checked accesses, carrying the offset of the next layer along. -/
def dissectChecked? (frame : Bytes) : Option Dissection := do
  match ← Ethernet.checked? frame with
  | none => return ⟨none, none, none, frame⟩
  | some ethernet =>
    let (network, offset) ←
      Network.checkedAt? ethernet.etherType frame Ethernet.headerLength
    match network with
    | none =>
      let payload ← frame.from? offset
      return ⟨some ethernet, none, none, payload⟩
    | some n =>
      let (transport, offset) ← Transport.checkedAt? n.protocol frame offset
      let payload ← frame.from? offset
      return ⟨some ethernet, some n, transport, payload⟩

/-- **No access is out of bounds.** With every access checked, dissecting still answers, and answers
the same. -/
theorem dissectChecked?_eq (frame : Bytes) : dissectChecked? frame = some (dissect frame) := by
  unfold dissectChecked? dissect
  rw [Ethernet.checked?_eq, Option.bind_eq_bind, Option.bind_some]
  cases hethernet : Ethernet.ofBytes? frame with
  | none => rfl
  | some ethernet =>
    dsimp only
    have hlink : Ethernet.headerLength ≤ frame.length :=
      length_le_of_eq_some Ethernet.ofBytes?_eq_none_iff hethernet
    rw [Network.checkedAt?_eq _ hlink, Option.bind_eq_bind, Option.bind_some]
    unfold dissectNetwork
    cases hnetwork : Network.ofBytes? ethernet.etherType (frame.drop Ethernet.headerLength) with
    | none =>
      simp only [Option.map_none, Option.getD_none, Nat.add_zero]
      rw [Bytes.from?_eq hlink]
      rfl
    | some n =>
      -- A header that was decoded ends inside the frame, and so the next offset is in bounds.
      have hn := Network.headerLength_le hnetwork
      rw [List.length_drop] at hn
      have hreach : Ethernet.headerLength + n.headerLength ≤ frame.length := by omega
      simp only [Option.map_some, Option.getD_some]
      rw [Transport.checkedAt?_eq _ hreach, Option.bind_eq_bind, Option.bind_some]
      unfold dissectTransport
      rw [List.drop_drop]
      cases htransport :
          Transport.ofBytes? n.protocol (frame.drop (Ethernet.headerLength + n.headerLength)) with
      | none =>
        simp only [Option.map_none, Option.getD_none, Nat.add_zero]
        rw [Bytes.from?_eq hreach]
        rfl
      | some t =>
        have ht := Transport.headerLength_le htransport
        rw [List.length_drop] at ht
        simp only [Option.map_some, Option.getD_some]
        rw [Bytes.from?_eq (by omega), List.drop_drop]
        rfl

end Frame

end LinkTap
