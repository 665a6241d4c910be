/-
Frames that are cut short.

A decoder that accepts a header has looked at no octet behind it. So what it makes of a frame that
was cut is settled by where the cut is: a header that ends before the cut is decoded as from the
whole frame, and one that reaches past it is not decoded at all. That is one law with the length of
a header in it, and it is proved for each decoder, from the bounds of its accesses.

Since each layer is looked for behind the one before it, the law carries over to the chain of
layers. A cut may hide the last layers of a frame, and it changes none of those that are left; and
what lies behind the last decoded header has no say in any header.
-/
import LinkTap.Proofs.Frame.Grammar
import LinkTap.Session.Consumer

set_option autoImplicit false

namespace LinkTap

/-! ## Reading before the cut -/

namespace Bytes

variable {bs : Bytes} {i start width n : Nat}

/-- An octet in front of the cut. -/
theorem octet_take (h : i < n) : octet (bs.take n) i = octet bs i := by
  unfold octet
  rw [List.getD_eq_getElem?_getD, List.getD_eq_getElem?_getD, List.getElem?_take_of_lt h]

/-- A field in front of the cut. -/
theorem field_take (h : start + width ≤ n) :
    field (bs.take n) start width = field bs start width := by
  have hmin : min width (n - start) = width := by omega
  unfold field
  rw [List.drop_take, List.take_take, hmin]

theorem be16_take (h : start + 2 ≤ n) : be16 (bs.take n) start = be16 bs start := by
  rw [be16, be16, field_take h]

theorem be32_take (h : start + 4 ≤ n) : be32 (bs.take n) start = be32 bs start := by
  rw [be32, be32, field_take h]

end Bytes

variable {bs : Bytes} {start n : Nat}

theorem MacAddress.ofBytes?_take (h : start + 6 ≤ n) :
    ofBytes? ((bs.take n).drop start) = ofBytes? (bs.drop start) := by
  rw [← ofBytes?_field, Bytes.field_take h, ofBytes?_field]

theorem Ipv4Address.ofBytes_take (h : start + 4 ≤ n) :
    ofBytes ((bs.take n).drop start) = ofBytes (bs.drop start) := by
  rw [← ofBytes_field, Bytes.field_take h, ofBytes_field]

theorem Ipv6Address.ofBytes_take (h : start + 16 ≤ n) :
    ofBytes ((bs.take n).drop start) = ofBytes (bs.drop start) := by
  rw [← ofBytes_field, Bytes.field_take h, ofBytes_field]

namespace Frame

/-! ## Decoders -/

/-- A decoder that reads its header and nothing behind it: of octets that were cut it makes what it
makes of all of them, as long as the cut is not inside the header. -/
def ReadsHeader {α : Type} (decode : Bytes → Option α) (length : α → Nat) : Prop :=
  ∀ (bs : Bytes) (n : Nat) (header : α),
    decode (bs.take n) = some header ↔ decode bs = some header ∧ length header ≤ n

/-- A decoder of several kinds of headers reads the one that it decides on. -/
theorem ReadsHeader.map {α β : Type} {decode : Bytes → Option α} {length : α → Nat}
    (h : ReadsHeader decode length) {kind : α → β} {lengthOf : β → Nat}
    (hlength : ∀ header, lengthOf (kind header) = length header) :
    ReadsHeader (fun bs => (decode bs).map kind) lengthOf := by
  intro bs n header
  simp only [Option.map_eq_some_iff]
  constructor
  · rintro ⟨inner, hinner, rfl⟩
    obtain ⟨hwhole, hle⟩ := (h bs n inner).mp hinner
    exact ⟨⟨inner, hwhole, rfl⟩, by rwa [hlength]⟩
  · rintro ⟨⟨inner, hinner, rfl⟩, hle⟩
    rw [hlength] at hle
    exact ⟨inner, (h bs n inner).mpr ⟨hinner, hle⟩, rfl⟩

/-- A decoder that accepts nothing. -/
theorem readsHeader_none {α : Type} (length : α → Nat) : ReadsHeader (fun _ => none) length := by
  intro bs n header
  simp

/-- How a decoder comes to read its header only. The octets say how far the header reaches, which is
no less than its fixed part; what they say stands in the fixed part; and the fields lie before the
end. -/
theorem ReadsHeader.of_extent {α : Type} {decode : Bytes → Option α} {length : α → Nat}
    (least : Nat) (extent : Bytes → Nat)
    (hextent : ∀ bs header, decode bs = some header →
      least ≤ length header ∧ length header = extent bs ∧ extent bs ≤ bs.length)
    (hcut : ∀ bs n, least ≤ n → extent (bs.take n) = extent bs)
    (htake : ∀ bs n, least ≤ n → extent bs ≤ n → decode (bs.take n) = decode bs) :
    ReadsHeader decode length := by
  intro bs n header
  constructor
  · intro hsome
    obtain ⟨hleast, hlength, hle⟩ := hextent _ _ hsome
    have hinside := List.length_take_le n bs
    -- The header ends before the cut, and so the cut does not change what it says of itself.
    have hsame := hcut bs n (by omega)
    rw [htake bs n (by omega) (by omega)] at hsome
    exact ⟨hsome, by omega⟩
  · rintro ⟨hsome, hle⟩
    obtain ⟨hleast, hlength, -⟩ := hextent _ _ hsome
    rw [htake bs n (by omega) (by omega)]
    exact hsome

/-- A decoder whose header has one fixed length, and which asks for no more than that. -/
theorem ReadsHeader.of_fixed {α : Type} {decode : Bytes → Option α} {size : Nat}
    (hnone : ∀ {bs}, decode bs = none ↔ bs.length < size)
    (htake : ∀ {bs n}, size ≤ n → decode (bs.take n) = decode bs) :
    ReadsHeader decode fun _ => size := by
  apply ReadsHeader.of_extent size fun _ => size
  · intro bs header hsome
    exact ⟨Nat.le_refl _, rfl, length_le_of_eq_some hnone hsome⟩
  · intro bs n _
    rfl
  · intro bs n hn _
    exact htake hn

/-- A cut behind the least length that is asked for leaves the answer as it is. -/
theorem length_take_lt_iff {least : Nat} (h : least ≤ n) :
    (bs.take n).length < least ↔ bs.length < least := by
  rw [List.length_take]
  omega

namespace Ethernet

/-- The decoder looks no further than the header. -/
theorem ofBytes?_take (h : headerLength ≤ n) : ofBytes? (bs.take n) = ofBytes? bs := by
  have hfixed : 14 ≤ n := h
  have hfirst : MacAddress.ofBytes? ((bs.take n).drop 0) = MacAddress.ofBytes? (bs.drop 0) :=
    MacAddress.ofBytes?_take (by omega)
  rw [List.drop_zero, List.drop_zero] at hfirst
  have hsecond : MacAddress.ofBytes? ((bs.take n).drop 6) = MacAddress.ofBytes? (bs.drop 6) :=
    MacAddress.ofBytes?_take (by omega)
  unfold ofBytes?
  simp (disch := omega) only [length_take_lt_iff h, hfirst, hsecond, Bytes.be16_take]

theorem readsHeader : ReadsHeader ofBytes? fun _ => headerLength :=
  .of_fixed ofBytes?_eq_none_iff ofBytes?_take

end Ethernet

namespace Ipv4

/-- How far the header reaches by what its first octet says. -/
def extent (bs : Bytes) : Nat := 4 * ((bs.octet 0).toNat % 16)

/-- The decoder looks as far as the header declares that it goes, and no further. -/
theorem ofBytes?_take (h : minHeaderLength ≤ n) (hextent : extent bs ≤ n) :
    ofBytes? (bs.take n) = ofBytes? bs := by
  have hfixed : 20 ≤ n := h
  have hdeclared : (bs.octet 0 % 16).toNat * 4 ≤ n := by
    rw [ihl_toNat, Nat.mul_comm]
    exact hextent
  unfold ofBytes?
  -- All fields lie in the fixed part, and so before the cut.
  simp (disch := omega) only [Bytes.octet_take, Bytes.be16_take, Ipv4Address.ofBytes_take,
    length_take_lt_iff h, length_take_lt_iff hdeclared]

/-- An IPv4 header is read from a string that is cut off exactly if it ends in front of the cut. -/
theorem readsHeader : ReadsHeader ofBytes? headerLength := by
  apply ReadsHeader.of_extent minHeaderLength extent
  · intro bs header hsome
    obtain ⟨⟨-, hleast, hle⟩, hlength, -⟩ := of_ofBytes?_eq_some hsome
    refine ⟨?_, hlength, hle⟩
    simp only [minHeaderLength]
    omega
  · intro bs n hn
    simp only [minHeaderLength] at hn
    rw [extent, extent, Bytes.octet_take (by omega)]
  · intro bs n hn hextent
    exact ofBytes?_take hn hextent

end Ipv4

namespace Ipv6

theorem ofBytes?_take (h : headerLength ≤ n) : ofBytes? (bs.take n) = ofBytes? bs := by
  have hfixed : 40 ≤ n := h
  unfold ofBytes?
  simp (disch := omega) only [Bytes.octet_take, Bytes.be16_take, Bytes.be32_take,
    Ipv6Address.ofBytes_take, length_take_lt_iff h]

theorem readsHeader : ReadsHeader ofBytes? fun _ => headerLength :=
  .of_fixed ofBytes?_eq_none_iff ofBytes?_take

end Ipv6

namespace Tcp

/-- How far the header reaches by what its data offset says. -/
def extent (bs : Bytes) : Nat := 4 * ((bs.octet 12).toNat / 16)

/-- As for IPv4, with the data offset in the place of the length. -/
theorem ofBytes?_take (h : minHeaderLength ≤ n) (hextent : extent bs ≤ n) :
    ofBytes? (bs.take n) = ofBytes? bs := by
  have hfixed : 20 ≤ n := h
  have hdeclared : (bs.octet 12 / 16).toNat * 4 ≤ n := by
    rw [dataOffset_toNat, Nat.mul_comm]
    exact hextent
  unfold ofBytes?
  simp (disch := omega) only [Bytes.octet_take, Bytes.be16_take, Bytes.be32_take,
    length_take_lt_iff h, length_take_lt_iff hdeclared]

theorem readsHeader : ReadsHeader ofBytes? headerLength := by
  apply ReadsHeader.of_extent minHeaderLength extent
  · intro bs header hsome
    obtain ⟨⟨-, hleast, hle⟩, hlength⟩ := of_ofBytes?_eq_some hsome
    refine ⟨?_, hlength, hle⟩
    simp only [minHeaderLength]
    omega
  · intro bs n hn
    simp only [minHeaderLength] at hn
    rw [extent, extent, Bytes.octet_take (by omega)]
  · intro bs n hn hextent
    exact ofBytes?_take hn hextent

end Tcp

namespace Udp

theorem ofBytes?_take (h : headerLength ≤ n) : ofBytes? (bs.take n) = ofBytes? bs := by
  have hfixed : 8 ≤ n := h
  unfold ofBytes?
  simp (disch := omega) only [Bytes.be16_take, length_take_lt_iff h]

theorem readsHeader : ReadsHeader ofBytes? fun _ => headerLength :=
  .of_fixed ofBytes?_eq_none_iff ofBytes?_take

end Udp

/-! ## Layers -/

/-- Whatever version the type announces, its decoder reads the header only. -/
theorem Network.readsHeader (etherType : EtherType) :
    ReadsHeader (ofBytes? etherType) headerLength := by
  cases etherType with
  | ipv4 => exact Ipv4.readsHeader.map fun _ => rfl
  | ipv6 => exact Ipv6.readsHeader.map fun _ => rfl
  | arp | vlan | lldp | other _ => exact readsHeader_none headerLength

/-- Whatever protocol is announced, its decoder reads the header only. -/
theorem Transport.readsHeader (protocol : IpProtocol) :
    ReadsHeader (ofBytes? protocol) headerLength := by
  cases protocol with
  | tcp => exact Tcp.readsHeader.map fun _ => rfl
  | udp => exact Udp.readsHeader.map fun _ => rfl
  | icmp | igmp | icmpv6 | other _ => exact readsHeader_none headerLength

/-! ## Dissections -/

variable {frame : Bytes}

/-- The Ethernet header survives the cut exactly if all its octets do. -/
theorem ethernet_dissect_take {e : Ethernet} :
    (dissect (frame.take n)).ethernet = some e ↔ (dissect frame).ethernet = some e ∧ 14 ≤ n := by
  rw [dissect_ethernet, dissect_ethernet]
  exact Ethernet.readsHeader frame n e

/-- So does a network header, with the one in front of it. -/
theorem network_dissect_take {h : Network} :
    (dissect (frame.take n)).network = some h
      ↔ (dissect frame).network = some h ∧ 14 + h.headerLength ≤ n := by
  rw [dissect_network, dissect_network, Option.bind_eq_some_iff, Option.bind_eq_some_iff]
  -- What is left behind the Ethernet header is cut as many octets earlier.
  simp only [ethernet_dissect_take, List.drop_take, Network.readsHeader _ _ _ h]
  have hlength : Ethernet.headerLength = 14 := rfl
  constructor
  · rintro ⟨e, ⟨he, hlink⟩, hh, hle⟩
    exact ⟨⟨e, he, hh⟩, by omega⟩
  · rintro ⟨⟨e, he, hh⟩, hle⟩
    exact ⟨e, ⟨he, by omega⟩, hh, by omega⟩

/-- With a transport header there are all three, and the lengths add up. -/
theorem headerLength_of_transport {t : Transport} (h : (dissect frame).transport = some t) :
    ∃ network, (dissect frame).network = some network
      ∧ (dissect frame).headerLength = 14 + network.headerLength + t.headerLength := by
  obtain ⟨network, hnetwork, -⟩ := of_dissect_transport h
  obtain ⟨e, he, -⟩ := of_dissect_network hnetwork
  refine ⟨network, hnetwork, ?_⟩
  rw [Dissection.headerLength, he, hnetwork, h]
  rfl

/-- So does a transport header, with both in front of it. -/
theorem transport_dissect_take {t : Transport} :
    (dissect (frame.take n)).transport = some t
      ↔ (dissect frame).transport = some t ∧ (dissect frame).headerLength ≤ n := by
  have hcut := dissect_transport (frame.take n)
  have hwhole := dissect_transport frame
  constructor
  · intro ht
    rw [hcut] at ht
    obtain ⟨network, hnetwork, ht⟩ := Option.bind_eq_some_iff.mp ht
    obtain ⟨hnetwork, hle⟩ := network_dissect_take.mp hnetwork
    rw [List.drop_take] at ht
    obtain ⟨ht, hrest⟩ := (Transport.readsHeader network.protocol _ _ t).mp ht
    have hlength : Ethernet.headerLength = 14 := rfl
    have htransport : (dissect frame).transport = some t := by
      rw [hwhole, hnetwork]
      exact ht
    obtain ⟨same, hsame, htotal⟩ := headerLength_of_transport htransport
    obtain rfl := Option.some.inj (hnetwork.symm.trans hsame)
    exact ⟨htransport, by omega⟩
  · rintro ⟨htransport, hle⟩
    obtain ⟨network, hnetwork, htotal⟩ := headerLength_of_transport htransport
    have hnetworkCut : (dissect (frame.take n)).network = some network :=
      network_dissect_take.mpr ⟨hnetwork, by omega⟩
    have hlength : Ethernet.headerLength = 14 := rfl
    rw [hwhole, hnetwork, Option.bind_some] at htransport
    rw [hcut, hnetworkCut, Option.bind_some, List.drop_take]
    exact (Transport.readsHeader network.protocol _ _ t).mpr ⟨htransport, by omega⟩

/-- The headers up to the network header are among all headers. -/
theorem le_headerLength_of_network {h : Network} (hh : (dissect frame).network = some h) :
    14 + h.headerLength ≤ (dissect frame).headerLength := by
  obtain ⟨e, he, -⟩ := of_dissect_network hh
  rw [Dissection.headerLength, he, hh]
  exact Nat.le_add_right _ _

theorem le_headerLength_of_ethernet {e : Ethernet} (he : (dissect frame).ethernet = some e) :
    14 ≤ (dissect frame).headerLength := by
  rw [Dissection.headerLength, he, Nat.add_assoc]
  exact Nat.le_add_right _ _

/-- Every layer of `d` is a layer of `d'`, with the same header. -/
structure Dissection.Within (d d' : Dissection) : Prop where
  ethernet : ∀ e, d.ethernet = some e → d'.ethernet = some e
  network : ∀ h, d.network = some h → d'.network = some h
  transport : ∀ t, d.transport = some t → d'.transport = some t

theorem Dissection.Within.trans {d d' d'' : Dissection} (h : d.Within d') (h' : d'.Within d'') :
    d.Within d'' :=
  ⟨fun e he => h'.ethernet e (h.ethernet e he), fun n hn => h'.network n (h.network n hn),
    fun t ht => h'.transport t (h.transport t ht)⟩

/-- A frame that is cut off has no layer that the whole one has not. -/
theorem within_take (frame : Bytes) (n : Nat) : (dissect (frame.take n)).Within (dissect frame) :=
  ⟨fun _ he => (ethernet_dissect_take.mp he).1, fun _ hh => (network_dissect_take.mp hh).1,
    fun _ ht => (transport_dissect_take.mp ht).1⟩

/-- A cut behind the last header hides nothing. -/
theorem within_take_of_headerLength_le (h : (dissect frame).headerLength ≤ n) :
    (dissect frame).Within (dissect (frame.take n)) := by
  refine ⟨?_, ?_, ?_⟩
  · intro e he
    have hle := le_headerLength_of_ethernet he
    exact ethernet_dissect_take.mpr ⟨he, by omega⟩
  · intro network hnetwork
    have hle := le_headerLength_of_network hnetwork
    exact network_dissect_take.mpr ⟨hnetwork, by omega⟩
  · intro t ht
    exact transport_dissect_take.mpr ⟨ht, h⟩

/-- What lies behind the last header has no say in the headers before it. -/
theorem within_replace_rest (frame rest : Bytes) :
    (dissect frame).Within (dissect (frame.take (dissect frame).headerLength ++ rest)) := by
  have hfront := within_take_of_headerLength_le (Nat.le_refl (dissect frame).headerLength)
  -- The headers are a front of the changed frame as they were of the unchanged one.
  have hchanged := within_take (frame.take (dissect frame).headerLength ++ rest)
    (frame.take (dissect frame).headerLength).length
  rw [List.take_left] at hchanged
  exact hfront.trans hchanged

/-! ## As many layers -/

/-- A value that is carried over counts on both sides. -/
theorem isSome_toNat_le {α : Type} {a b : Option α} (h : ∀ x, a = some x → b = some x) :
    a.isSome.toNat ≤ b.isSome.toNat ∧ (a.isSome.toNat = b.isSome.toNat → a = b) := by
  cases a with
  | none => cases b <;> simp
  | some x =>
    rw [h x rfl]
    simp

namespace Dissection.Within

variable {d d' : Dissection}

theorem layerCount_le (h : d.Within d') : d.layerCount ≤ d'.layerCount := by
  have hethernet := (isSome_toNat_le h.ethernet).1
  have hnetwork := (isSome_toNat_le h.network).1
  have htransport := (isSome_toNat_le h.transport).1
  unfold layerCount
  omega

/-- Dissections with as many layers have the same ones, so their headers are as long. -/
theorem headerLength_eq (h : d.Within d') (hcount : d.layerCount = d'.layerCount) :
    d.headerLength = d'.headerLength := by
  obtain ⟨hethernet, hethernetEq⟩ := isSome_toNat_le h.ethernet
  obtain ⟨hnetwork, hnetworkEq⟩ := isSome_toNat_le h.network
  obtain ⟨htransport, htransportEq⟩ := isSome_toNat_le h.transport
  -- No layer can make up for another, since none of the three counts less in the larger one.
  unfold layerCount at hcount
  unfold headerLength
  rw [hethernetEq (by omega), hnetworkEq (by omega), htransportEq (by omega)]

end Dissection.Within

/-- If no layer is lost, the payload is cut off where the frame is. -/
theorem payload_dissect_take
    (h : (dissect (frame.take n)).layerCount = (dissect frame).layerCount) :
    (dissect (frame.take n)).payload
      = (dissect frame).payload.take (n - (dissect frame).headerLength) := by
  rw [dissect_payload, dissect_payload, (within_take frame n).headerLength_eq h, List.drop_take]

/-! ## Log lines -/

/-- The lines of a summary that are about layers. -/
def Dissection.layerLines (d : Dissection) : List String :=
  (d.ethernet.map ethernetLine).toList ++ (d.network.map networkLine).toList
    ++ (d.transport.map transportLine).toList

theorem Dissection.text_eq (d : Dissection) :
    d.text = String.intercalate "\n"
      (["Packet:"] ++ d.layerLines ++ [s!"  Payload: {d.payload.length} bytes"]) := rfl

/-- The layers of a dissection follow one another without a gap, so a dissection that has only
layers of another one has the first of them. -/
theorem layerLines_of_within {d : Dissection} (h : (dissect frame).Within d) :
    (dissect frame).layerLines = d.layerLines.take (dissect frame).layerCount := by
  unfold Dissection.layerLines Dissection.layerCount
  cases hethernet : (dissect frame).ethernet with
  | none =>
    have hnetwork : (dissect frame).network = none := by
      rw [dissect_network, hethernet]
      rfl
    have htransport : (dissect frame).transport = none := by
      rw [dissect_transport, hnetwork]
      rfl
    simp [hnetwork, htransport]
  | some e =>
    cases hnetwork : (dissect frame).network with
    | none =>
      have htransport : (dissect frame).transport = none := by
        rw [dissect_transport, hnetwork]
        rfl
      simp [htransport, h.ethernet e hethernet]
    | some network =>
      cases htransport : (dissect frame).transport with
      | none => simp [h.ethernet e hethernet, h.network network hnetwork]
      | some t =>
        simp [h.ethernet e hethernet, h.network network hnetwork, h.transport t htransport]

/-- **A cut hides layers and changes none.** For every frame and every place of a cut, and so for
every number of octets that a consumer decodes: each layer that is decoded from the front of the
frame is decoded from the whole frame with the same header, and a layer of the whole frame is
decoded from the front exactly if its header ends before the cut. With as many layers on both sides,
the payload of the front is a prefix of the payload of the frame. Whatever is put behind the last
header, no header changes. What a consumer logs of a packet that it cuts are the first layers that
it would log of the whole packet. -/
theorem cut_hides_layers_only (frame : Bytes) (n : Nat) :
    let front := dissect (frame.take n)
    let whole := dissect frame
    front.Within whole
      ∧ (∀ e, front.ethernet = some e ↔ whole.ethernet = some e ∧ 14 ≤ n)
      ∧ (∀ h, front.network = some h ↔ whole.network = some h ∧ 14 + h.headerLength ≤ n)
      ∧ (∀ t, front.transport = some t ↔ whole.transport = some t ∧ whole.headerLength ≤ n)
      ∧ (front.layerCount = whole.layerCount → front.payload <+: whole.payload)
      ∧ (∀ rest, whole.Within (dissect (frame.take whole.headerLength ++ rest)))
      ∧ ∀ time index,
          let logged := Packet.trace ⟨time, index, frame⟩ n
          logged.length = frame.length ∧ logged.layers ≤ whole.layerCount
            ∧ logged.summary = String.intercalate "\n"
              (["Packet:"] ++ whole.layerLines.take logged.layers
                ++ [s!"  Payload: {front.payload.length} bytes"]) := by
  intro front whole
  have hwithin : front.Within whole := within_take frame n
  refine ⟨hwithin, fun _ => ethernet_dissect_take, fun _ => network_dissect_take,
    fun _ => transport_dissect_take, ?_, within_replace_rest frame, ?_⟩
  · intro hcount
    show (dissect (frame.take n)).payload <+: whole.payload
    rw [payload_dissect_take hcount]
    exact List.take_prefix _ _
  · intro time index
    refine ⟨rfl, hwithin.layerCount_le, ?_⟩
    show front.text = _
    rw [Dissection.text_eq, layerLines_of_within hwithin]
    rfl

end Frame

end LinkTap
