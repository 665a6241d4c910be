/-
What is taken apart can be put together again.

A decoder cuts words into fields: a quotient here, a remainder there, a number that gets a name if
it has one. Laid out again in the rows of the standards, the fields of a header make up the octets
that they were read from. So no bit of a fixed header is lost and none is counted twice, and numbers
without a name are kept as well as the others. One half octet is an exception: the reserved bits
behind the data offset of TCP belong to no field.

The rows are taken one at a time. What has to be seen of a row is an equation between two numbers,
the one that its fields make up and the one that its four octets spell, and it is linear once the
fields are written as quotients and remainders of the octets.
-/
import LinkTap.Proofs.Frame.Headers
import LinkTap.Proofs.Frame.Wire

set_option autoImplicit false

namespace LinkTap

/-! ## Octets and words -/

namespace Bytes

variable {bs : Bytes} {start width : Nat}

/-- The octets that spell a number are determined by it. -/
theorem ofNatLE_littleEndian (bs : Bytes) : ofNatLE bs.length (littleEndian bs) = bs := by
  induction bs with
  | nil => rfl
  | cons b bs ih =>
    have hb := b.toNat_lt
    have hrest : (b.toNat + 256 * littleEndian bs) / 256 = littleEndian bs := by omega
    have hfirst : UInt8.ofNat (b.toNat + 256 * littleEndian bs) = b := by
      apply UInt8.toNat_inj.mp
      simp
    rw [List.length_cons, littleEndian, ofNatLE, hfirst, hrest, ih]

/-- The octets that spell a number in network order are determined by it. -/
theorem ofNatBE_bigEndian (bs : Bytes) : ofNatBE bs.length (bigEndian bs) = bs := by
  have hreversed := ofNatLE_littleEndian bs.reverse
  rw [List.length_reverse] at hreversed
  rw [ofNatBE, bigEndian, hreversed, List.reverse_reverse]

/-- A field that is there is made of the octets at its places. -/
theorem field_eq_map (h : start + width ≤ bs.length) :
    field bs start width = (List.range width).map fun i => octet bs (start + i) := by
  apply List.ext_getElem
  · simp [field]
    omega
  · intro i hi hi'
    have hlength : start + i < bs.length := by
      simp at hi'
      omega
    simp [field, octet, hlength]

theorem length_field (h : start + width ≤ bs.length) : (field bs start width).length = width := by
  rw [field_eq_map h]
  simp

/-- Fields that follow one another without a gap. -/
theorem field_append (bs : Bytes) (start width more : Nat) :
    field bs start width ++ field bs (start + width) more = field bs start (width + more) := by
  rw [field, field, field, List.take_add, List.drop_drop]

/-- The number that two octets spell. -/
theorem bigEndian_field_two (h : start + 2 ≤ bs.length) :
    bigEndian (field bs start 2) = (octet bs start).toNat * 256 + (octet bs (start + 1)).toNat := by
  rw [field_eq_map h]
  simp [List.range_succ, bigEndian, littleEndian]
  omega

/-- The number that four octets spell. -/
theorem bigEndian_field_four (h : start + 4 ≤ bs.length) :
    bigEndian (field bs start 4)
      = (octet bs start).toNat * 16777216 + (octet bs (start + 1)).toNat * 65536
        + (octet bs (start + 2)).toNat * 256 + (octet bs (start + 3)).toNat := by
  rw [field_eq_map h]
  simp [List.range_succ, bigEndian, littleEndian]
  omega

/-- No bit is lost in a word of 16 bits. -/
theorem toNat_be16 (h : start + 2 ≤ bs.length) :
    (be16 bs start).toNat = (octet bs start).toNat * 256 + (octet bs (start + 1)).toNat := by
  have hfirst := (octet bs start).toNat_lt
  have hsecond := (octet bs (start + 1)).toNat_lt
  rw [be16, bigEndian_field_two h]
  simp
  omega

/-- No bit is lost in a word of 32 bits. -/
theorem toNat_be32 (h : start + 4 ≤ bs.length) :
    (be32 bs start).toNat
      = (octet bs start).toNat * 16777216 + (octet bs (start + 1)).toNat * 65536
        + (octet bs (start + 2)).toNat * 256 + (octet bs (start + 3)).toNat := by
  have hfirst := (octet bs start).toNat_lt
  have hsecond := (octet bs (start + 1)).toNat_lt
  have hthird := (octet bs (start + 2)).toNat_lt
  have hfourth := (octet bs (start + 3)).toNat_lt
  rw [be32, bigEndian_field_four h]
  simp
  omega

/-- A word that is laid out again gives the octets it was read from. -/
theorem ofNatBE_be16 (h : start + 2 ≤ bs.length) :
    ofNatBE 2 (be16 bs start).toNat = field bs start 2 := by
  have hspelled := ofNatBE_bigEndian (field bs start 2)
  rwa [length_field h, bigEndian_field_two h, ← toNat_be16 h] at hspelled

end Bytes

/-! ## Addresses -/

variable {bs : Bytes}

/-- A hardware address is its six octets. -/
theorem MacAddress.toBytes_of_ofBytes? {m : MacAddress} {start : Nat}
    (h : ofBytes? (bs.drop start) = some m) : m.toBytes = bs.field start 6 := by
  unfold Bytes.field
  generalize bs.drop start = rest at h
  match rest, h with
  | _ :: _ :: _ :: _ :: _ :: _ :: _, h =>
    obtain rfl := Option.some.inj h
    rfl

/-- An address that was read octet by octet. -/
theorem toList_ofFn_octet {start width : Nat} (h : start + width ≤ bs.length) :
    (Vector.ofFn fun i : Fin width => Bytes.octet (bs.drop start) i).toList
      = bs.field start width := by
  rw [Bytes.field_eq_map h]
  apply List.ext_getElem
  · simp
  · intro i hi hi'
    simp [Bytes.octet]

theorem Ipv4Address.toBytes_ofBytes {start : Nat} (h : start + 4 ≤ bs.length) :
    (ofBytes (bs.drop start)).toBytes = bs.field start 4 :=
  toList_ofFn_octet h

theorem Ipv6Address.toBytes_ofBytes {start : Nat} (h : start + 16 ≤ bs.length) :
    (ofBytes (bs.drop start)).toBytes = bs.field start 16 :=
  toList_ofFn_octet h

namespace Frame

/-! ## Numbers -/

/-- The three flags of an IPv4 header are the digits of their number. -/
theorem IpFlags.bits_ofBits {bits : Nat} (h : bits < 8) :
    4 * (ofBits bits).reserved.toNat + 2 * (ofBits bits).dontFragment.toNat
      + (ofBits bits).moreFragments.toNat = bits := by
  revert bits
  decide

/-- The eight control bits are the digits of their octet. -/
theorem TcpFlags.toNat_ofByte (b : UInt8) : (ofByte b).toNat = b.toNat := by
  have hall : ∀ bits < 256, (ofByte (UInt8.ofNat bits)).toNat = bits := by
    decide +kernel
  have hb := hall b.toNat b.toNat_lt
  rwa [UInt8.ofNat_toNat] at hb

/-! ## Rows -/

variable {start : Nat}

/-- A row is the four octets that spell its number. -/
theorem row_eq_of_pack {fields : List (Nat × Nat)} {octets : Bytes} (hlength : octets.length = 4)
    (hpack : pack fields = Bytes.bigEndian octets) : row fields = octets := by
  have hspelled := Bytes.ofNatBE_bigEndian octets
  rwa [hlength, ← hpack] at hspelled

/-- A row is the field at a place if the number it makes up is spelled there. -/
theorem row_eq_field {fields : List (Nat × Nat)} (h : start + 4 ≤ bs.length)
    (hpack : pack fields = (bs.octet start).toNat * 16777216 + (bs.octet (start + 1)).toNat * 65536
      + (bs.octet (start + 2)).toNat * 256 + (bs.octet (start + 3)).toNat) :
    row fields = bs.field start 4 := by
  apply row_eq_of_pack (Bytes.length_field h)
  rw [hpack, Bytes.bigEndian_field_four h]

/-- A row that is read as two halves. -/
theorem row_halves (start : Nat) (h : start + 4 ≤ bs.length) :
    row [(16, (bs.be16 start).toNat), (16, (bs.be16 (start + 2)).toNat)] = bs.field start 4 := by
  apply row_eq_field h
  rw [Bytes.toNat_be16 (by omega), Bytes.toNat_be16 (by omega), Nat.add_assoc start 2 1]
  simp [pack]
  omega

/-- A row that is read as one word. -/
theorem row_word (start : Nat) (h : start + 4 ≤ bs.length) :
    row [(32, (bs.be32 start).toNat)] = bs.field start 4 := by
  apply row_eq_field h
  rw [Bytes.toNat_be32 h]
  simp [pack]

theorem row_version (h : 4 ≤ bs.length) :
    row [(4, (bs.octet 0 / 16).toNat), (4, (bs.octet 0 % 16).toNat), (8, (bs.octet 1).toNat),
      (16, (bs.be16 2).toNat)] = bs.field 0 4 := by
  apply row_eq_field (by omega)
  rw [Bytes.toNat_be16 (by omega), UInt8.toNat_div, UInt8.toNat_mod]
  simp [pack]
  omega

/-- The second row of an IPv4 header, with the flags as digits. -/
theorem row_fragment (h : 8 ≤ bs.length) :
    let flags := IpFlags.ofBits ((bs.be16 6).toNat / 0x2000)
    row [(16, (bs.be16 4).toNat), (1, flags.reserved.toNat), (1, flags.dontFragment.toNat),
      (1, flags.moreFragments.toNat), (13, (bs.be16 6 % 0x2000).toNat)] = bs.field 4 4 := by
  intro flags
  apply row_eq_field (by omega)
  have hword := (bs.be16 6).toNat_lt
  -- The three flags are the quotient of the word whose remainder is the offset.
  have hflags : 4 * flags.reserved.toNat + 2 * flags.dontFragment.toNat + flags.moreFragments.toNat
      = (bs.be16 6).toNat / 0x2000 := IpFlags.bits_ofBits (by omega)
  have hoffset : (bs.be16 6 % 0x2000).toNat = (bs.be16 6).toNat % 0x2000 := UInt16.toNat_mod ..
  have hfirst : (bs.be16 4).toNat = (bs.octet 4).toNat * 256 + (bs.octet 5).toNat :=
    Bytes.toNat_be16 (by omega)
  have hsecond : (bs.be16 6).toNat = (bs.octet 6).toNat * 256 + (bs.octet 7).toNat :=
    Bytes.toNat_be16 (by omega)
  simp [pack]
  omega

theorem row_ttl (h : 12 ≤ bs.length) :
    row [(8, (bs.octet 8).toNat), (8, (bs.octet 9).toNat), (16, (bs.be16 10).toNat)]
      = bs.field 8 4 := by
  apply row_eq_field (by omega)
  rw [Bytes.toNat_be16 (by omega)]
  simp [pack]
  omega

/-- The first row of an IPv6 header. -/
theorem row_flow (h : 4 ≤ bs.length) :
    row [(4, (UInt8.ofNat ((bs.be32 0).toNat / 0x10000000)).toNat),
      (8, (UInt8.ofNat ((bs.be32 0).toNat / 0x100000)).toNat),
      (20, (UInt32.ofNat ((bs.be32 0).toNat % 0x100000)).toNat)] = bs.field 0 4 := by
  apply row_eq_field (by omega)
  have hword : (bs.be32 0).toNat = (bs.octet 0).toNat * 16777216 + (bs.octet 1).toNat * 65536
      + (bs.octet 2).toNat * 256 + (bs.octet 3).toNat := Bytes.toNat_be32 (by omega)
  have hlt := (bs.be32 0).toNat_lt
  generalize (bs.be32 0).toNat = word at hword hlt
  -- The traffic class is read through an octet, which cuts the version off.
  simp [pack]
  omega

theorem row_hop (h : 8 ≤ bs.length) :
    row [(16, (bs.be16 4).toNat), (8, (bs.octet 6).toNat), (8, (bs.octet 7).toNat)]
      = bs.field 4 4 := by
  apply row_eq_field (by omega)
  rw [Bytes.toNat_be16 (by omega)]
  simp [pack]
  omega

/-- The reserved bits come back as zero. -/
theorem row_control (h : 16 ≤ bs.length) :
    let flags := TcpFlags.ofByte (bs.octet 13)
    row [(4, (bs.octet 12 / 16).toNat), (4, 0), (1, flags.cwr.toNat), (1, flags.ece.toNat),
      (1, flags.urg.toNat), (1, flags.ack.toNat), (1, flags.psh.toNat), (1, flags.rst.toNat),
      (1, flags.syn.toNat), (1, flags.fin.toNat), (16, (bs.be16 14).toNat)]
      = [bs.octet 12 / 16 * 16] ++ bs.field 13 3 := by
  intro flags
  have hfield : bs.field 13 3 = [bs.octet 13, bs.octet 14, bs.octet 15] := by
    rw [Bytes.field_eq_map (by omega)]
    rfl
  have hcontrol : flags.toNat = (bs.octet 13).toNat := TcpFlags.toNat_ofByte _
  have hwindow : (bs.be16 14).toNat = (bs.octet 14).toNat * 256 + (bs.octet 15).toNat :=
    Bytes.toNat_be16 (by omega)
  have hoffset := (bs.octet 12).toNat_lt
  rw [hfield]
  apply row_eq_of_pack rfl
  rw [pack_control, hcontrol, hwindow]
  simp [Bytes.bigEndian, Bytes.littleEndian]
  omega

/-! ## Headers -/

/-- A type without a name is kept as its number, so the two
addresses and the type make up all 14 octets. -/
theorem Ethernet.wire_of_ofBytes? {e : Ethernet} (h : ofBytes? bs = some e) :
    wire e.destination e.source e.etherType.toWord.toNat = bs.take 14 := by
  have hlength : 14 ≤ bs.length := length_le_of_eq_some ofBytes?_eq_none_iff h
  obtain ⟨destination, source, hdestination, hsource, hsome⟩ := ofBytes?_of_length hlength
  obtain rfl := Option.some.inj (hsome.symm.trans h)
  -- The first address stands at the front.
  have hfront : MacAddress.ofBytes? (bs.drop 0) = some destination := hdestination
  rw [wire, MacAddress.toBytes_of_ofBytes? hfront, MacAddress.toBytes_of_ofBytes? hsource,
    EtherType.toWord_ofWord, Bytes.ofNatBE_be16 (by omega), Bytes.field_append bs 0 6 6,
    Bytes.field_append bs 0 12 2]
  rfl

/-- The rows and the addresses of an IPv4 header follow one another without a gap. -/
theorem Ipv4.wire_of_ofBytes? {header : Ipv4} (h : ofBytes? bs = some header) :
    header.wire header.protocol.toByte.toNat [] = bs.take 20 := by
  have hlength : 20 ≤ bs.length := (of_ofBytes?_eq_some h).1.1
  unfold ofBytes? at h
  dsimp only at h
  split at h
  · cases h
  · obtain rfl := Option.some.inj h
    simp only [wire, List.append_nil, IpProtocol.toByte_ofByte]
    rw [row_version (by omega), row_fragment (by omega), row_ttl (by omega),
      Ipv4Address.toBytes_ofBytes (by omega), Ipv4Address.toBytes_ofBytes (by omega),
      Bytes.field_append bs 0 4 4, Bytes.field_append bs 0 8 4, Bytes.field_append bs 0 12 4,
      Bytes.field_append bs 0 16 4]
    rfl

/-- The rows and the addresses of an IPv6 header follow one another without a gap. -/
theorem Ipv6.wire_of_ofBytes? {header : Ipv6} (h : ofBytes? bs = some header) :
    header.wire header.nextHeader.toByte.toNat = bs.take 40 := by
  have hlength : 40 ≤ bs.length := length_le_of_eq_some ofBytes?_eq_none_iff h
  unfold ofBytes? at h
  split at h
  · cases h
  · obtain rfl := Option.some.inj h
    simp only [wire, IpProtocol.toByte_ofByte]
    rw [row_flow (by omega), row_hop (by omega), Ipv6Address.toBytes_ofBytes (by omega),
      Ipv6Address.toBytes_ofBytes (by omega), Bytes.field_append bs 0 4 4,
      Bytes.field_append bs 0 8 16, Bytes.field_append bs 0 24 16]
    rfl

theorem Udp.wire_of_ofBytes? {header : Udp} (h : ofBytes? bs = some header) :
    header.wire = bs.take 8 := by
  have hlength : 8 ≤ bs.length := length_le_of_eq_some ofBytes?_eq_none_iff h
  unfold ofBytes? at h
  split at h
  · cases h
  · obtain rfl := Option.some.inj h
    simp only [wire]
    rw [row_halves 0 (by omega), row_halves 4 (by omega),
      Bytes.field_append bs 0 4 4]
    rfl

/-- The reserved bits are not kept, and all other ones are. -/
theorem Tcp.wire_of_ofBytes? {header : Tcp} (h : ofBytes? bs = some header) :
    header.wire [] = (bs.take 20).modify 12 (· / 16 * 16) := by
  have hlength : 20 ≤ bs.length := (of_ofBytes?_eq_some h).1.1
  have hplace : (bs.take 20).modify 12 (· / 16 * 16)
      = bs.field 0 12 ++ ([bs.octet 12 / 16 * 16] ++ bs.field 13 7) := by
    rw [List.modify_eq_take_cons_drop (by rw [List.length_take]; omega), List.take_take,
      List.drop_take, List.getElem_take]
    simp [Bytes.field, Bytes.octet, show 12 < bs.length by omega]
  unfold ofBytes? at h
  dsimp only at h
  split at h
  · cases h
  · obtain rfl := Option.some.inj h
    simp only [wire, List.append_nil]
    rw [row_halves 0 (by omega), row_word 4 (by omega), row_word 8 (by omega),
      row_control (by omega), row_halves 16 (by omega), hplace]
    -- The rows before the control bits make up the front, and the ones behind them the rest.
    rw [Bytes.field_append bs 0 4 4, Bytes.field_append bs 0 8 4, List.append_assoc,
      List.append_assoc, Bytes.field_append bs 13 3 4]

/-- **Decoding a header loses nothing.** Whatever a decoder accepts, its fields laid out again by
the standard are the octets of the fixed header: all of them for Ethernet, IPv4, IPv6 and UDP, and
for TCP all but the four reserved bits behind the data offset. So octets that decode to the same
header are the same, numbers without a name included. -/
theorem headers_lossless (bs other : Bytes) :
    (∀ h, Ethernet.ofBytes? bs = some h →
        Ethernet.wire h.destination h.source h.etherType.toWord.toNat = bs.take 14
          ∧ (Ethernet.ofBytes? other = some h → other.take 14 = bs.take 14))
      ∧ (∀ h, Ipv4.ofBytes? bs = some h →
          h.wire h.protocol.toByte.toNat [] = bs.take 20
            ∧ (Ipv4.ofBytes? other = some h → other.take 20 = bs.take 20))
      ∧ (∀ h, Ipv6.ofBytes? bs = some h →
          h.wire h.nextHeader.toByte.toNat = bs.take 40
            ∧ (Ipv6.ofBytes? other = some h → other.take 40 = bs.take 40))
      ∧ (∀ h, Tcp.ofBytes? bs = some h →
          h.wire [] = (bs.take 20).modify 12 (· / 16 * 16)
            ∧ (Tcp.ofBytes? other = some h →
                (other.take 20).modify 12 (· / 16 * 16) = (bs.take 20).modify 12 (· / 16 * 16)))
      ∧ (∀ h, Udp.ofBytes? bs = some h →
          h.wire = bs.take 8 ∧ (Udp.ofBytes? other = some h → other.take 8 = bs.take 8)) := by
  refine ⟨?_, ?_, ?_, ?_, ?_⟩
  · intro h hbs
    have hwire := Ethernet.wire_of_ofBytes? hbs
    exact ⟨hwire, fun hother => (Ethernet.wire_of_ofBytes? hother).symm.trans hwire⟩
  · intro h hbs
    have hwire := Ipv4.wire_of_ofBytes? hbs
    exact ⟨hwire, fun hother => (Ipv4.wire_of_ofBytes? hother).symm.trans hwire⟩
  · intro h hbs
    have hwire := Ipv6.wire_of_ofBytes? hbs
    exact ⟨hwire, fun hother => (Ipv6.wire_of_ofBytes? hother).symm.trans hwire⟩
  · intro h hbs
    have hwire := Tcp.wire_of_ofBytes? hbs
    exact ⟨hwire, fun hother => (Tcp.wire_of_ofBytes? hother).symm.trans hwire⟩
  · intro h hbs
    have hwire := Udp.wire_of_ofBytes? hbs
    exact ⟨hwire, fun hother => (Udp.wire_of_ofBytes? hother).symm.trans hwire⟩

end Frame

end LinkTap
