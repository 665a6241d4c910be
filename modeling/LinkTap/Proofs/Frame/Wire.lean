/-
What is sent is what is taken apart.

A row of 32 bits is read in parts: as one word, as two halves, or octet by octet. Each part is a
quotient and a remainder of the number that the fields of the row make up, and as long as no field
is out of its range, that is where the bits of the fields are. Behind a row one reads as if the row
were not there. So every decoder gives back the header that was laid out, option octets are passed
by the length that the header declares, and the layers follow one another.
-/
import LinkTap.Frame.Wire

set_option autoImplicit false

namespace LinkTap.Frame

/-! ## Rows -/

variable {fields : List (Nat × Nat)} {rest : Bytes}

/-- The four octets of a row. -/
theorem row_eq (fields : List (Nat × Nat)) :
    row fields = [UInt8.ofNat (pack fields / 256 / 256 / 256),
      UInt8.ofNat (pack fields / 256 / 256),
      UInt8.ofNat (pack fields / 256), UInt8.ofNat (pack fields)] := rfl

@[simp] theorem length_row (fields : List (Nat × Nat)) : (row fields).length = 4 := rfl

/-- A row that is read as one word. -/
@[simp] theorem toNat_be32_row :
    (Bytes.be32 (row fields ++ rest) 0).toNat = pack fields % 4294967296 := by
  simp [row_eq, Bytes.be32, Bytes.field, Bytes.bigEndian, Bytes.littleEndian]
  omega

/-- The first half of a row. -/
@[simp] theorem toNat_be16_row_zero :
    (Bytes.be16 (row fields ++ rest) 0).toNat = pack fields / 65536 % 65536 := by
  simp [row_eq, Bytes.be16, Bytes.field, Bytes.bigEndian, Bytes.littleEndian]
  omega

/-- The second half of a row. -/
@[simp] theorem toNat_be16_row_two :
    (Bytes.be16 (row fields ++ rest) 2).toNat = pack fields % 65536 := by
  simp [row_eq, Bytes.be16, Bytes.field, Bytes.bigEndian, Bytes.littleEndian]
  omega

/-- One octet of a row. -/
@[simp] theorem toNat_octet_row {k : Nat} (hk : k < 4) :
    (Bytes.octet (row fields ++ rest) k).toNat = pack fields / Nat.pow 256 (3 - k) % 256 := by
  have hcases : k = 0 ∨ k = 1 ∨ k = 2 ∨ k = 3 := by omega
  rcases hcases with rfl | rfl | rfl | rfl <;> simp [row_eq, Bytes.octet] <;> omega

/-! Behind a row one reads as if it were not there. These equations are not left to definitional
unfolding, which would compute the row. -/

@[simp] theorem drop_row (k : Nat) : (row fields ++ rest).drop (k + 4) = rest.drop k := by
  rw [Nat.add_comm, ← List.drop_drop, List.drop_left' (length_row fields)]

@[simp] theorem octet_row (k : Nat) :
    Bytes.octet (row fields ++ rest) (k + 4) = Bytes.octet rest k := by
  simp [Bytes.octet, row_eq]

@[simp] theorem be16_row (k : Nat) :
    Bytes.be16 (row fields ++ rest) (k + 4) = Bytes.be16 rest k := by
  rw [Bytes.be16, Bytes.field, drop_row]
  rfl

@[simp] theorem be32_row (k : Nat) :
    Bytes.be32 (row fields ++ rest) (k + 4) = Bytes.be32 rest k := by
  rw [Bytes.be32, Bytes.field, drop_row]
  rfl

/-! ## Rows of the standards

One lemma for each division of a row: the fields are where the decoders look for them. -/

/-- A row of one field, such as a sequence number. -/
theorem word_row (a : UInt32) (rest : Bytes) :
    Bytes.be32 (row [(32, a.toNat)] ++ rest) 0 = a := by
  apply UInt32.toNat_inj.mp
  simp [pack]

/-- A row of two halves, such as two ports. -/
theorem halves_row (a b : UInt16) (rest : Bytes) :
    Bytes.be16 (row [(16, a.toNat), (16, b.toNat)] ++ rest) 0 = a
      ∧ Bytes.be16 (row [(16, a.toNat), (16, b.toNat)] ++ rest) 2 = b := by
  have ha := a.toNat_lt
  have hb := b.toNat_lt
  constructor
  · apply UInt16.toNat_inj.mp
    simp [pack]
    omega
  · apply UInt16.toNat_inj.mp
    simp [pack]

/-- The first row of an IPv4 header. -/
theorem version_row {version ihl : UInt8} (hversion : version.toNat < 16) (hihl : ihl.toNat < 16)
    (tos : UInt8) (total : UInt16) (rest : Bytes) :
    let bs := row [(4, version.toNat), (4, ihl.toNat), (8, tos.toNat), (16, total.toNat)] ++ rest
    Bytes.octet bs 0 / 16 = version ∧ Bytes.octet bs 0 % 16 = ihl ∧ Bytes.octet bs 1 = tos
      ∧ Bytes.be16 bs 2 = total := by
  intro bs
  have htos := tos.toNat_lt
  have htotal := total.toNat_lt
  -- Version and length share the first octet.
  refine ⟨?_, ?_, ?_, ?_⟩
  · apply UInt8.toNat_inj.mp
    simp [bs, pack]
    omega
  · apply UInt8.toNat_inj.mp
    simp [bs, pack]
    omega
  · apply UInt8.toNat_inj.mp
    simp [bs, pack]
    omega
  · apply UInt16.toNat_inj.mp
    simp [bs, pack]

/-- Three flags that are laid out as a number, the reserved one highest, are read as they were. -/
theorem ofBits_flags (f : IpFlags) :
    IpFlags.ofBits (4 * f.reserved.toNat + 2 * f.dontFragment.toNat + f.moreFragments.toNat)
      = f := by
  obtain ⟨reserved, dontFragment, moreFragments⟩ := f
  revert reserved dontFragment moreFragments
  decide

/-- The second row of an IPv4 header. The flags and the offset share its second half. -/
theorem fragment_row {fragment : UInt16} (hfragment : fragment.toNat < 8192) (id : UInt16)
    (f : IpFlags) (rest : Bytes) :
    let bs := row [(16, id.toNat), (1, f.reserved.toNat), (1, f.dontFragment.toNat),
      (1, f.moreFragments.toNat), (13, fragment.toNat)] ++ rest
    Bytes.be16 bs 0 = id ∧ IpFlags.ofBits ((Bytes.be16 bs 2).toNat / 0x2000) = f
      ∧ Bytes.be16 bs 2 % 0x2000 = fragment := by
  intro bs
  have hid := id.toNat_lt
  have hreserved := Bool.toNat_le f.reserved
  have hdont := Bool.toNat_le f.dontFragment
  have hmore := Bool.toNat_le f.moreFragments
  -- The flags are the highest three bits of the second half, and the offset is the rest of it.
  have hword : (Bytes.be16 bs 2).toNat
      = (4 * f.reserved.toNat + 2 * f.dontFragment.toNat + f.moreFragments.toNat) * 8192
        + fragment.toNat := by
    simp [bs, pack]
    omega
  refine ⟨?_, ?_, ?_⟩
  · apply UInt16.toNat_inj.mp
    simp [bs, pack]
    omega
  · have hbits : (Bytes.be16 bs 2).toNat / 0x2000
        = 4 * f.reserved.toNat + 2 * f.dontFragment.toNat + f.moreFragments.toNat := by omega
    rw [hbits, ofBits_flags]
  · apply UInt16.toNat_inj.mp
    rw [UInt16.toNat_mod, hword]
    simp
    omega

/-- The third row of an IPv4 header. -/
theorem ttl_row {protocol : Nat} (hprotocol : protocol < 256) (ttl : UInt8) (checksum : UInt16)
    (rest : Bytes) :
    let bs := row [(8, ttl.toNat), (8, protocol), (16, checksum.toNat)] ++ rest
    Bytes.octet bs 0 = ttl ∧ Bytes.octet bs 1 = UInt8.ofNat protocol
      ∧ Bytes.be16 bs 2 = checksum := by
  intro bs
  have httl := ttl.toNat_lt
  have hchecksum := checksum.toNat_lt
  refine ⟨?_, ?_, ?_⟩
  · apply UInt8.toNat_inj.mp
    simp [bs, pack]
    omega
  · apply UInt8.toNat_inj.mp
    simp [bs, pack]
    omega
  · apply UInt16.toNat_inj.mp
    simp [bs, pack]

/-- The first row of an IPv6 header. -/
theorem flow_row {version : UInt8} {flow : UInt32} (hversion : version.toNat < 16)
    (hflow : flow.toNat < 1048576) (traffic : UInt8) (rest : Bytes) :
    let bs := row [(4, version.toNat), (8, traffic.toNat), (20, flow.toNat)] ++ rest
    UInt8.ofNat ((Bytes.be32 bs 0).toNat / 0x10000000) = version
      ∧ UInt8.ofNat ((Bytes.be32 bs 0).toNat / 0x100000) = traffic
      ∧ UInt32.ofNat ((Bytes.be32 bs 0).toNat % 0x100000) = flow := by
  intro bs
  have htraffic := traffic.toNat_lt
  -- The traffic class straddles two octets, so all three fields are cut out of the whole word.
  have hword : (Bytes.be32 bs 0).toNat
      = (version.toNat * 256 + traffic.toNat) * 1048576 + flow.toNat := by
    simp [bs, pack]
    omega
  rw [hword]
  refine ⟨?_, ?_, ?_⟩
  · apply UInt8.toNat_inj.mp
    simp
    omega
  · apply UInt8.toNat_inj.mp
    simp
    omega
  · apply UInt32.toNat_inj.mp
    simp
    omega

/-- The second row of an IPv6 header. -/
theorem hop_row {next : Nat} (hnext : next < 256) (length : UInt16) (hops : UInt8) (rest : Bytes) :
    let bs := row [(16, length.toNat), (8, next), (8, hops.toNat)] ++ rest
    Bytes.be16 bs 0 = length ∧ Bytes.octet bs 2 = UInt8.ofNat next ∧ Bytes.octet bs 3 = hops := by
  intro bs
  have hlength := length.toNat_lt
  have hhops := hops.toNat_lt
  refine ⟨?_, ?_, ?_⟩
  · apply UInt16.toNat_inj.mp
    simp [bs, pack]
    omega
  · apply UInt8.toNat_inj.mp
    simp [bs, pack]
    omega
  · apply UInt8.toNat_inj.mp
    simp [bs, pack]

/-- The control bits as a number, the highest one first. -/
def TcpFlags.toNat (f : TcpFlags) : Nat :=
  pack [(1, f.cwr.toNat), (1, f.ece.toNat), (1, f.urg.toNat), (1, f.ack.toNat), (1, f.psh.toNat),
    (1, f.rst.toNat), (1, f.syn.toNat), (1, f.fin.toNat)]

theorem TcpFlags.toNat_lt (f : TcpFlags) : f.toNat < 256 := by
  obtain ⟨fin, syn, rst, psh, ack, urg, ece, cwr⟩ := f
  revert fin syn rst psh ack urg ece cwr
  decide

/-- Control bits that are laid out as an octet are read as they were. -/
theorem TcpFlags.ofByte_toNat (f : TcpFlags) : ofByte (UInt8.ofNat f.toNat) = f := by
  obtain ⟨fin, syn, rst, psh, ack, urg, ece, cwr⟩ := f
  revert fin syn rst psh ack urg ece cwr
  decide

/-- Four reserved bits lie between the data offset and the control bits. -/
theorem pack_control (offset window : Nat) (f : TcpFlags) :
    pack [(4, offset), (4, 0), (1, f.cwr.toNat), (1, f.ece.toNat), (1, f.urg.toNat),
      (1, f.ack.toNat), (1, f.psh.toNat), (1, f.rst.toNat), (1, f.syn.toNat), (1, f.fin.toNat),
      (16, window)]
      = (offset * 4096 + f.toNat) * 65536 + window := by
  simp [pack, TcpFlags.toNat]
  omega

/-- The fourth row of a TCP header. -/
theorem control_row {offset : UInt8} (hoffset : offset.toNat < 16) (f : TcpFlags) (window : UInt16)
    (rest : Bytes) :
    let bs := row [(4, offset.toNat), (4, 0), (1, f.cwr.toNat), (1, f.ece.toNat), (1, f.urg.toNat),
      (1, f.ack.toNat), (1, f.psh.toNat), (1, f.rst.toNat), (1, f.syn.toNat), (1, f.fin.toNat),
      (16, window.toNat)] ++ rest
    Bytes.octet bs 0 / 16 = offset ∧ TcpFlags.ofByte (Bytes.octet bs 1) = f
      ∧ Bytes.be16 bs 2 = window := by
  intro bs
  have hwindow := window.toNat_lt
  have hflags := f.toNat_lt
  have hword := pack_control offset.toNat window.toNat f
  refine ⟨?_, ?_, ?_⟩
  · apply UInt8.toNat_inj.mp
    simp [bs, hword]
    omega
  · have hoctet : Bytes.octet bs 1 = UInt8.ofNat f.toNat := by
      apply UInt8.toNat_inj.mp
      simp [bs, hword]
      omega
    rw [hoctet, TcpFlags.ofByte_toNat]
  · apply UInt16.toNat_inj.mp
    simp [bs, hword]

/-! ## Addresses -/

/-- The octets of an address come before what follows it. -/
theorem octet_toList_append {n : Nat} (v : Vector UInt8 n) (rest : Bytes) {i : Nat} (hi : i < n) :
    Bytes.octet (v.toList ++ rest) i = v[i] := by
  have hlength : i < v.toList.length := by simpa using hi
  rw [Bytes.octet, List.getD_eq_getElem?_getD, List.getElem?_append_left hlength,
    List.getElem?_eq_getElem hlength]
  simp

/-- A hardware address is read back, and behind its six octets is what follows it. -/
theorem macAddress_toBytes (m : MacAddress) (rest : Bytes) :
    MacAddress.ofBytes? (m.toBytes ++ rest) = some m ∧ (m.toBytes ++ rest).drop 6 = rest := by
  obtain ⟨⟨⟨octets⟩, hsize⟩⟩ := m
  match octets, hsize with
  | [a, b, c, d, e, f], _ => exact ⟨rfl, rfl⟩

theorem ipv4Address_toBytes (a : Ipv4Address) (rest : Bytes) :
    Ipv4Address.ofBytes (a.toBytes ++ rest) = a ∧ (a.toBytes ++ rest).drop 4 = rest := by
  constructor
  · apply congrArg Ipv4Address.mk
    ext i hi
    simp [Ipv4Address.toBytes, octet_toList_append a.octets rest hi]
  · apply List.drop_left'
    simp [Ipv4Address.toBytes]

theorem ipv6Address_toBytes (a : Ipv6Address) (rest : Bytes) :
    Ipv6Address.ofBytes (a.toBytes ++ rest) = a ∧ (a.toBytes ++ rest).drop 16 = rest := by
  constructor
  · apply congrArg Ipv6Address.mk
    ext i hi
    simp [Ipv6Address.toBytes, octet_toList_append a.octets rest hi]
  · apply List.drop_left'
    simp [Ipv6Address.toBytes]

/-! ## Headers

Each header is given back, and it is as long as it says. -/

namespace Ethernet

variable (destination source : MacAddress) (etherType : Nat)

theorem length_wire : (wire destination source etherType).length = headerLength := by
  simp [wire, MacAddress.toBytes, headerLength, Bytes.ofNatBE, Bytes.ofNatLE]

/-- The type number stands behind the two addresses. It is the
only field of these headers that is not in a row of 32 bits. -/
theorem ofBytes?_wire (rest : Bytes) :
    ofBytes? (wire destination source etherType ++ rest)
      = some ⟨destination, source, EtherType.ofWord (UInt16.ofNat etherType)⟩ := by
  have hpresent : ¬ (wire destination source etherType ++ rest).length < headerLength := by
    rw [List.length_append, length_wire]
    omega
  have hword : Bytes.be16 (wire destination source etherType ++ rest) 12
      = UInt16.ofNat etherType := by
    have hdrop : (wire destination source etherType ++ rest).drop 12
        = Bytes.ofNatBE 2 etherType ++ rest := by
      rw [← List.drop_drop (j := 6) (i := 6), wire, List.append_assoc, List.append_assoc]
      simp only [macAddress_toBytes]
    have hfront : Bytes.be16 (Bytes.ofNatBE 2 etherType ++ rest) 0 = UInt16.ofNat etherType := by
      apply UInt16.toNat_inj.mp
      simp [Bytes.be16, Bytes.field, Bytes.ofNatBE, Bytes.ofNatLE, Bytes.bigEndian,
        Bytes.littleEndian]
      omega
    rw [← hfront, ← hdrop]
    simp [Bytes.be16, Bytes.field]
  rw [ofBytes?, if_neg hpresent, hword]
  simp only [wire, List.append_assoc, macAddress_toBytes, Option.bind_eq_bind, Option.bind_some]
  rfl

end Ethernet

namespace Ipv4

variable {h : Ipv4} {protocol : Nat} {options : Bytes}

/-- An IPv4 header is as long as its length field tells, options included. -/
theorem length_wire (hrange : h.InRange options) :
    (h.wire protocol options).length = h.headerLength := by
  have := hrange.five_le_ihl
  have := hrange.options
  simp [wire, headerLength, Ipv4Address.toBytes]
  omega

/-- The options are passed by the length field. Only the decoded protocol enters the header, so it
has to be the one whose number was laid out. -/
theorem ofBytes?_wire (hrange : h.InRange options) (hnumber : protocol < 256)
    (hprotocol : IpProtocol.ofByte (UInt8.ofNat protocol) = h.protocol) (rest : Bytes) :
    ofBytes? (h.wire protocol options ++ rest) = some h := by
  have hmin := hrange.five_le_ihl
  have hmax := hrange.ihl_le
  have hpresent : ¬ ((h.wire protocol options ++ rest).length < minHeaderLength
      ∨ h.ihl.toNat * 4 < minHeaderLength
      ∨ (h.wire protocol options ++ rest).length < h.ihl.toNat * 4) := by
    simp only [List.length_append, length_wire hrange, headerLength, minHeaderLength]
    omega
  have hversion := version_row hrange.version (Nat.lt_succ_of_le hmax) h.tos h.totalLength
  have hfragment := fragment_row hrange.fragmentOffset h.identification h.flags
  have httl := ttl_row hnumber h.ttl h.checksum
  unfold ofBytes?
  simp only [wire, List.append_assoc] at hpresent ⊢
  simp only [hversion]
  rw [if_neg hpresent]
  simp only [hfragment, httl, hprotocol, drop_row, octet_row, be16_row, List.drop_zero,
    ipv4Address_toBytes]

end Ipv4

namespace Ipv6

variable {h : Ipv6} {next : Nat}

theorem length_wire : (h.wire next).length = headerLength := by
  simp [wire, headerLength, Ipv6Address.toBytes]

/-- The fixed header is all there is, and every field of it is given back. -/
theorem ofBytes?_wire (hrange : h.InRange) (hnumber : next < 256)
    (hnext : IpProtocol.ofByte (UInt8.ofNat next) = h.nextHeader) (rest : Bytes) :
    ofBytes? (h.wire next ++ rest) = some h := by
  have hpresent : ¬ (h.wire next ++ rest).length < headerLength := by
    rw [List.length_append, length_wire]
    omega
  have hflow := flow_row hrange.version hrange.flowLabel h.trafficClass
  have hhop := hop_row hnumber h.payloadLength h.hopLimit
  rw [ofBytes?, if_neg hpresent]
  simp only [wire, List.append_assoc, hflow, hhop, hnext, drop_row, octet_row, be16_row,
    List.drop_zero, ipv6Address_toBytes]

end Ipv6

namespace Tcp

variable {h : Tcp} {options : Bytes}

/-- A TCP header is as long as its data offset tells, options included. -/
theorem length_wire (hrange : h.InRange options) : (h.wire options).length = h.headerLength := by
  have := hrange.five_le_dataOffset
  have := hrange.options
  simp [wire, headerLength]
  omega

/-- The options are passed by the data offset. -/
theorem ofBytes?_wire (hrange : h.InRange options) (rest : Bytes) :
    ofBytes? (h.wire options ++ rest) = some h := by
  have hmin := hrange.five_le_dataOffset
  have hmax := hrange.dataOffset_le
  have hpresent : ¬ ((h.wire options ++ rest).length < minHeaderLength
      ∨ h.dataOffset.toNat * 4 < minHeaderLength
      ∨ (h.wire options ++ rest).length < h.dataOffset.toNat * 4) := by
    simp only [List.length_append, length_wire hrange, headerLength, minHeaderLength]
    omega
  have hcontrol := control_row (Nat.lt_succ_of_le hmax) h.flags h.window
  unfold ofBytes?
  simp only [wire, List.append_assoc] at hpresent ⊢
  simp only [octet_row, hcontrol]
  rw [if_neg hpresent]
  simp only [halves_row, word_row, hcontrol, be16_row, be32_row]

end Tcp

namespace Udp

variable {h : Udp}

theorem length_wire : h.wire.length = headerLength := by
  simp [wire, headerLength]

theorem ofBytes?_wire (rest : Bytes) : ofBytes? (h.wire ++ rest) = some h := by
  have hpresent : ¬ (h.wire ++ rest).length < headerLength := by
    rw [List.length_append, length_wire]
    omega
  rw [ofBytes?, if_neg hpresent]
  simp only [wire, List.append_assoc, halves_row, be16_row]

end Udp

/-! ## Layers -/

namespace Network

variable {n : Network} {protocol : Nat} {options : Bytes}

theorem length_wire (hrange : n.InRange options) :
    (n.wire protocol options).length = n.headerLength := by
  cases n with
  | ipv4 h => exact Ipv4.length_wire hrange
  | ipv6 h => exact Ipv6.length_wire

/-- A network header is found by the type that announces its version. -/
theorem ofBytes?_wire (hrange : n.InRange options) (hnumber : protocol < 256)
    (hprotocol : IpProtocol.ofByte (UInt8.ofNat protocol) = n.protocol) (rest : Bytes) :
    ofBytes? n.etherType (n.wire protocol options ++ rest) = some n := by
  cases n with
  | ipv4 h => exact congrArg (Option.map ipv4) (Ipv4.ofBytes?_wire hrange hnumber hprotocol rest)
  | ipv6 h => exact congrArg (Option.map ipv6) (Ipv6.ofBytes?_wire hrange.1 hnumber hprotocol rest)

/-- The number that announces a network header is read as the type it stands for. -/
theorem ofWord_typeNumber (n : Network) :
    EtherType.ofWord (UInt16.ofNat n.typeNumber) = n.etherType := by
  cases n <;> rfl

end Network

namespace Transport

variable {t : Transport} {options : Bytes}

theorem length_wire (hrange : t.InRange options) : (t.wire options).length = t.headerLength := by
  cases t with
  | tcp h => exact Tcp.length_wire hrange
  | udp h => exact Udp.length_wire

/-- A transport header is found by the protocol that announces it. -/
theorem ofBytes?_wire (hrange : t.InRange options) (rest : Bytes) :
    ofBytes? t.protocol (t.wire options ++ rest) = some t := by
  cases t with
  | tcp h => exact congrArg (Option.map tcp) (Tcp.ofBytes?_wire hrange rest)
  | udp h => exact congrArg (Option.map udp) (Udp.ofBytes?_wire rest)

/-- The number that announces a transport header fits an
octet and is read as the protocol it stands for. -/
theorem ofByte_protocolNumber (t : Transport) :
    t.protocolNumber < 256 ∧ IpProtocol.ofByte (UInt8.ofNat t.protocolNumber) = t.protocol := by
  constructor
  · cases t <;> simp [protocolNumber]
  · cases t <;> rfl

end Transport

/-- **A frame is taken apart into what it was put together from.** Lay out an Ethernet header, a
network header of either version and a transport header of either protocol, each announced by its
number in the one before, with all fields in range and as many option octets as the headers declare,
and let anything follow. The dissection finds these three headers, and what follows is the payload.
-/
theorem dissect_wire (destination source : MacAddress) {network : Network} {transport : Transport}
    {networkOptions transportOptions : Bytes} (hnetwork : network.InRange networkOptions)
    (htransport : transport.InRange transportOptions)
    (hprotocol : network.protocol = transport.protocol) (tail : Bytes) :
    dissect
        (Ethernet.wire destination source network.typeNumber
          ++ network.wire transport.protocolNumber networkOptions
          ++ transport.wire transportOptions ++ tail)
      = ⟨some ⟨destination, source, network.etherType⟩, some network, some transport, tail⟩ := by
  obtain ⟨hnumber, hannounced⟩ := transport.ofByte_protocolNumber
  have hethernetLength := Ethernet.length_wire destination source network.typeNumber
  have hnetworkLength : (network.wire transport.protocolNumber networkOptions).length
      = network.headerLength := Network.length_wire hnetwork
  have htransportLength := Transport.length_wire htransport
  -- Each layer is decoded at its place and moves on by its own length.
  rw [List.append_assoc, List.append_assoc, dissect, Ethernet.ofBytes?_wire,
    Network.ofWord_typeNumber]
  dsimp only
  rw [List.drop_left' hethernetLength, dissectNetwork]
  dsimp only
  rw [Network.ofBytes?_wire hnetwork hnumber (hannounced.trans hprotocol.symm)]
  dsimp only
  rw [List.drop_left' hnetworkLength, dissectTransport, hprotocol,
    Transport.ofBytes?_wire htransport]
  dsimp only
  rw [List.drop_left' htransportLength]

/-- A frame with option octets at both layers, octet by octet. -/
theorem dissect_wire_options :
    let destination : MacAddress := ⟨#v[10, 0, 0, 0, 0, 1]⟩
    let source : MacAddress := ⟨#v[10, 0, 0, 0, 0, 2]⟩
    let network : Network := .ipv4
      { version := 4, ihl := 6, tos := 16, totalLength := 50, identification := 0x1C46
        flags := ⟨false, true, false⟩, fragmentOffset := 0x0123, ttl := 64, protocol := .tcp
        checksum := 0xB1E6, source := ⟨#v[192, 168, 1, 1]⟩, destination := ⟨#v[10, 0, 0, 2]⟩ }
    let transport : Transport := .tcp
      { sourcePort := 443, destinationPort := 51000, sequence := 1000, acknowledgment := 2000
        dataOffset := 6, flags := ⟨false, true, false, false, true, false, false, true⟩
        window := 65535, checksum := 0x1234, urgentPointer := 0 }
    let frame : Bytes :=
      [10, 0, 0, 0, 0, 1, 10, 0, 0, 0, 0, 2, 0x08, 0x00,
        0x46, 16, 0, 50, 0x1C, 0x46, 0x41, 0x23, 64, 6, 0xB1, 0xE6, 192, 168, 1, 1, 10, 0, 0, 2,
        1, 1, 1, 0,
        0x01, 0xBB, 0xC7, 0x38, 0, 0, 0x03, 0xE8, 0, 0, 0x07, 0xD0, 0x60, 0x92, 255, 255,
        0x12, 0x34, 0, 0, 2, 4, 5, 180,
        7, 8]
    (network.InRange [1, 1, 1, 0] ∧ transport.InRange [2, 4, 5, 180]
        ∧ network.protocol = transport.protocol)
      ∧ dissect frame
        = ⟨some ⟨destination, source, .ipv4⟩, some network, some transport, [7, 8]⟩ := by
  intro destination source network transport frame
  have hnetwork : network.InRange [1, 1, 1, 0] :=
    ⟨by decide, by decide, by decide, by decide, by decide⟩
  have htransport : transport.InRange [2, 4, 5, 180] := ⟨by decide, by decide, by decide⟩
  have hframe : Ethernet.wire destination source network.typeNumber
      ++ network.wire transport.protocolNumber [1, 1, 1, 0] ++ transport.wire [2, 4, 5, 180]
        ++ [7, 8]
      = frame := by
    decide +kernel
  refine ⟨⟨hnetwork, htransport, rfl⟩, ?_⟩
  rw [← hframe]
  exact dissect_wire destination source hnetwork htransport rfl [7, 8]

end LinkTap.Frame
