/-
When a header is there, and how far it reaches.

Each decoder accepts by lengths alone: what must be present is a fixed number of octets, or the
number that the header declares for itself. The conditions are stated on the raw octets, before
anything is decoded, and every decoder is shown to accept exactly under its condition. With it comes
what the layers above need to know of a decoded header: that it reaches no further than the octets
given, and which number it carries for the layer behind it.
-/
import LinkTap.Frame.Dissection

set_option autoImplicit false

namespace LinkTap.Frame

/-- A decoder that accepts everything that it does not refuse. -/
theorem ite_none_eq_none_iff {α : Type} {refused : Prop} [Decidable refused] {decoded : α} :
    (if refused then none else some decoded) = none ↔ refused := by
  by_cases h : refused
  · simp [h]
  · simp [h]

/-- What was decoded has at least the length below which the decoder refuses. -/
theorem length_le_of_eq_some {α : Type} {decoded : Option α} {header : α} {length least : Nat}
    (hnone : decoded = none ↔ length < least) (h : decoded = some header) : least ≤ length := by
  refine Nat.le_of_not_lt fun hshort => ?_
  rw [hnone.mpr hshort] at h
  cases h

/-! ## Numbers of the layer behind -/

/-- No type number is lost in decoding, with or without a name. -/
theorem EtherType.toWord_ofWord (value : UInt16) : (ofWord value).toWord = value := by
  unfold ofWord
  repeat' split
  all_goals simp_all [toWord]

/-- A type that its own number names is decoded from this number and from no other. -/
theorem EtherType.ofWord_eq_iff {t : EtherType} (h : ofWord t.toWord = t) (value : UInt16) :
    ofWord value = t ↔ value = t.toWord := by
  constructor
  · intro hvalue
    rw [← hvalue, toWord_ofWord]
  · intro hvalue
    rw [hvalue, h]

/-- No protocol number is lost in decoding. -/
theorem IpProtocol.toByte_ofByte (value : UInt8) : (ofByte value).toByte = value := by
  unfold ofByte
  repeat' split
  all_goals simp_all [toByte]

/-! ## Ethernet -/

theorem macAddress_of_length {bs : Bytes} (h : 6 ≤ bs.length) :
    ∃ m, MacAddress.ofBytes? bs = some m := by
  match bs, h with
  | a :: b :: c :: d :: e :: f :: _, _ => exact ⟨_, rfl⟩

namespace Ethernet

variable {bs : Bytes}

/-- Both addresses are there if the header is. -/
theorem ofBytes?_of_length (h : headerLength ≤ bs.length) :
    ∃ destination source, MacAddress.ofBytes? bs = some destination
      ∧ MacAddress.ofBytes? (bs.drop 6) = some source
      ∧ ofBytes? bs = some ⟨destination, source, EtherType.ofWord (Bytes.be16 bs 12)⟩ := by
  have hlength : 14 ≤ bs.length := h
  have hfirst : 6 ≤ bs.length := by omega
  have hsecond : 6 ≤ (bs.drop 6).length := by
    rw [List.length_drop]
    omega
  obtain ⟨destination, hdestination⟩ := macAddress_of_length hfirst
  obtain ⟨source, hsource⟩ := macAddress_of_length hsecond
  refine ⟨destination, source, hdestination, hsource, ?_⟩
  rw [ofBytes?, if_neg (Nat.not_lt.mpr h), hdestination, hsource]
  rfl

/-- An Ethernet header is read if and only if its 14 octets are there. -/
theorem ofBytes?_eq_none_iff : ofBytes? bs = none ↔ bs.length < headerLength := by
  constructor
  · intro h
    refine Nat.lt_of_not_le fun hlength => ?_
    obtain ⟨_, _, -, -, hsome⟩ := ofBytes?_of_length hlength
    rw [h] at hsome
    cases hsome
  · intro h
    rw [ofBytes?, if_pos h]

/-- The type is the word behind the two addresses. -/
theorem etherType_eq {e : Ethernet} (h : ofBytes? bs = some e) :
    e.etherType = EtherType.ofWord (Bytes.be16 bs 12) := by
  have hlength : headerLength ≤ bs.length := length_le_of_eq_some ofBytes?_eq_none_iff h
  obtain ⟨_, _, -, -, hsome⟩ := ofBytes?_of_length hlength
  rw [← Option.some.inj (hsome.symm.trans h)]

end Ethernet

/-! ## Headers that declare their length -/

/-- The check that a decoder makes before it accepts a declared number of words of four octets. -/
theorem declared_refused_iff (length : Nat) (words : UInt8) :
    (length < 20 ∨ words.toNat * 4 < 20 ∨ length < words.toNat * 4)
      ↔ ¬ (20 ≤ length ∧ 5 ≤ words.toNat ∧ 4 * words.toNat ≤ length) := by
  omega

namespace Ipv4

variable {bs : Bytes}

/-- An IPv4 header is there: its fixed part, and as many words of four octets as it declares, which
are five at least. -/
def Present (bs : Bytes) : Prop :=
  20 ≤ bs.length ∧ 5 ≤ (bs.octet 0).toNat % 16 ∧ 4 * ((bs.octet 0).toNat % 16) ≤ bs.length

theorem ihl_toNat (bs : Bytes) : (bs.octet 0 % 16).toNat = (bs.octet 0).toNat % 16 :=
  UInt8.toNat_mod ..

/-- An IPv4 header is read if and only if it is there. -/
theorem ofBytes?_eq_none_iff : ofBytes? bs = none ↔ ¬ Present bs := by
  have hrules := declared_refused_iff bs.length (bs.octet 0 % 16)
  rw [ihl_toNat] at hrules
  unfold Present ofBytes?
  dsimp only
  rw [ihl_toNat, ← hrules]
  -- The three refusals of the decoder are together the negation of `Present`.
  exact ite_none_eq_none_iff

/-- What the layers around an IPv4 header need to know of it. -/
theorem of_ofBytes?_eq_some {header : Ipv4} (h : ofBytes? bs = some header) :
    Present bs ∧ header.headerLength = 4 * ((bs.octet 0).toNat % 16)
      ∧ header.protocol = IpProtocol.ofByte (bs.octet 9) := by
  have hpresent : Present bs := by
    refine Classical.not_not.mp fun habsent => ?_
    rw [ofBytes?_eq_none_iff.mpr habsent] at h
    cases h
  refine ⟨hpresent, ?_⟩
  unfold ofBytes? at h
  dsimp only at h
  split at h
  · cases h
  · cases h
    refine ⟨?_, rfl⟩
    rw [headerLength, ihl_toNat, Nat.mul_comm]

end Ipv4

namespace Tcp

variable {bs : Bytes}

/-- A TCP header is there: its fixed part, and as many words of four octets as it declares, which
are five at least. -/
def Present (bs : Bytes) : Prop :=
  20 ≤ bs.length ∧ 5 ≤ (bs.octet 12).toNat / 16 ∧ 4 * ((bs.octet 12).toNat / 16) ≤ bs.length

theorem dataOffset_toNat (bs : Bytes) : (bs.octet 12 / 16).toNat = (bs.octet 12).toNat / 16 :=
  UInt8.toNat_div ..

theorem ofBytes?_eq_none_iff : ofBytes? bs = none ↔ ¬ Present bs := by
  have hrules := declared_refused_iff bs.length (bs.octet 12 / 16)
  rw [dataOffset_toNat] at hrules
  unfold Present ofBytes?
  dsimp only
  rw [dataOffset_toNat, ← hrules]
  exact ite_none_eq_none_iff

/-- A TCP header that was read is there, and it is as long as it declares. -/
theorem of_ofBytes?_eq_some {header : Tcp} (h : ofBytes? bs = some header) :
    Present bs ∧ header.headerLength = 4 * ((bs.octet 12).toNat / 16) := by
  have hpresent : Present bs := by
    refine Classical.not_not.mp fun habsent => ?_
    rw [ofBytes?_eq_none_iff.mpr habsent] at h
    cases h
  refine ⟨hpresent, ?_⟩
  unfold ofBytes? at h
  dsimp only at h
  split at h
  · cases h
  · cases h
    rw [headerLength, dataOffset_toNat, Nat.mul_comm]

end Tcp

/-! ## Headers of a fixed length -/

theorem Ipv6.ofBytes?_eq_none_iff {bs : Bytes} :
    ofBytes? bs = none ↔ bs.length < headerLength := by
  unfold ofBytes?
  exact ite_none_eq_none_iff

theorem Ipv6.nextHeader_eq {bs : Bytes} {header : Ipv6} (h : ofBytes? bs = some header) :
    header.nextHeader = IpProtocol.ofByte (bs.octet 6) := by
  unfold ofBytes? at h
  split at h
  · cases h
  · cases h
    rfl

theorem Udp.ofBytes?_eq_none_iff {bs : Bytes} :
    ofBytes? bs = none ↔ bs.length < headerLength := by
  unfold ofBytes?
  exact ite_none_eq_none_iff

/-! ## Layers -/

namespace Network

variable {t : EtherType} {bs : Bytes} {n : Network}

/-- A network header is an IPv4 header or an IPv6 header, as the type says. -/
theorem of_ofBytes?_eq_some (h : ofBytes? t bs = some n) :
    (t = .ipv4 ∧ ∃ header, n = ipv4 header ∧ Ipv4.ofBytes? bs = some header)
      ∨ (t = .ipv6 ∧ ∃ header, n = ipv6 header ∧ Ipv6.ofBytes? bs = some header) := by
  unfold ofBytes? at h
  split at h
  · obtain ⟨header, hheader, rfl⟩ := Option.map_eq_some_iff.mp h
    exact .inl ⟨rfl, header, rfl, hheader⟩
  · obtain ⟨header, hheader, rfl⟩ := Option.map_eq_some_iff.mp h
    exact .inr ⟨rfl, header, rfl, hheader⟩
  · cases h

/-- Whether a network header is read depends on the type and on what it needs to be there. -/
theorem isSome_ofBytes?_iff : (ofBytes? t bs).isSome
    ↔ t = .ipv4 ∧ Ipv4.Present bs ∨ t = .ipv6 ∧ Ipv6.headerLength ≤ bs.length := by
  rw [Option.isSome_iff_ne_none, ne_eq]
  unfold ofBytes?
  cases t with
  | ipv4 =>
    rw [Option.map_eq_none_iff, Ipv4.ofBytes?_eq_none_iff]
    simp
  | ipv6 =>
    rw [Option.map_eq_none_iff, Ipv6.ofBytes?_eq_none_iff]
    simp
  | arp | vlan | lldp | other _ => simp

theorem headerLength_le (h : ofBytes? t bs = some n) : n.headerLength ≤ bs.length := by
  rcases of_ofBytes?_eq_some h with ⟨-, header, rfl, hheader⟩ | ⟨-, header, rfl, hheader⟩
  · obtain ⟨hpresent, hlength, -⟩ := Ipv4.of_ofBytes?_eq_some hheader
    exact Nat.le_trans (Nat.le_of_eq hlength) hpresent.2.2
  · exact length_le_of_eq_some Ipv6.ofBytes?_eq_none_iff hheader

/-- The protocol of a decoded header is the one that its number names. -/
theorem protocol_eq (h : ofBytes? t bs = some n) :
    IpProtocol.ofByte n.protocol.toByte = n.protocol := by
  rcases of_ofBytes?_eq_some h with ⟨-, header, rfl, hheader⟩ | ⟨-, header, rfl, hheader⟩
  · show IpProtocol.ofByte header.protocol.toByte = header.protocol
    rw [(Ipv4.of_ofBytes?_eq_some hheader).2.2, IpProtocol.toByte_ofByte]
  · show IpProtocol.ofByte header.nextHeader.toByte = header.nextHeader
    rw [Ipv6.nextHeader_eq hheader, IpProtocol.toByte_ofByte]

/-- A decoded header announces a protocol exactly if it carries the number of this protocol. -/
theorem protocol_eq_iff (h : ofBytes? t bs = some n) {p : IpProtocol}
    (hp : IpProtocol.ofByte p.toByte = p) : n.protocol = p ↔ n.protocol.toByte = p.toByte := by
  constructor
  · intro hprotocol
    rw [hprotocol]
  · intro hnumber
    rw [← protocol_eq h, hnumber, hp]

end Network

namespace Transport

variable {protocol : IpProtocol} {bs : Bytes} {t : Transport}

/-- A transport header is a TCP header or a UDP header, as the protocol says. -/
theorem of_ofBytes?_eq_some (h : ofBytes? protocol bs = some t) :
    (protocol = .tcp ∧ ∃ header, t = tcp header ∧ Tcp.ofBytes? bs = some header)
      ∨ (protocol = .udp ∧ ∃ header, t = udp header ∧ Udp.ofBytes? bs = some header) := by
  unfold ofBytes? at h
  split at h
  · obtain ⟨header, hheader, rfl⟩ := Option.map_eq_some_iff.mp h
    exact .inl ⟨rfl, header, rfl, hheader⟩
  · obtain ⟨header, hheader, rfl⟩ := Option.map_eq_some_iff.mp h
    exact .inr ⟨rfl, header, rfl, hheader⟩
  · cases h

/-- Whether a transport header is read depends on the protocol and on what it needs to be there. -/
theorem isSome_ofBytes?_iff : (ofBytes? protocol bs).isSome
    ↔ protocol = .tcp ∧ Tcp.Present bs ∨ protocol = .udp ∧ Udp.headerLength ≤ bs.length := by
  rw [Option.isSome_iff_ne_none, ne_eq]
  unfold ofBytes?
  cases protocol with
  | tcp =>
    rw [Option.map_eq_none_iff, Tcp.ofBytes?_eq_none_iff]
    simp
  | udp =>
    rw [Option.map_eq_none_iff, Udp.ofBytes?_eq_none_iff]
    simp
  | icmp | igmp | icmpv6 | other _ => simp

theorem headerLength_le (h : ofBytes? protocol bs = some t) : t.headerLength ≤ bs.length := by
  rcases of_ofBytes?_eq_some h with ⟨-, header, rfl, hheader⟩ | ⟨-, header, rfl, hheader⟩
  · obtain ⟨hpresent, hlength⟩ := Tcp.of_ofBytes?_eq_some hheader
    exact Nat.le_trans (Nat.le_of_eq hlength) hpresent.2.2
  · exact length_le_of_eq_some Udp.ofBytes?_eq_none_iff hheader

end Transport

end LinkTap.Frame
