/-
The layered grammar of a frame.

A frame is an Ethernet header, a network header that its type announces, a transport header that the
protocol of that announces, and a payload. Each header is there or not by what the raw octets say,
and a header that is not there ends the chain. The equations below open the dissection once: each
layer is the decoder of that layer applied behind the headers decoded so far, and the payload is
what lies behind all of them. The grammar then follows layer by layer from what the decoders accept.
-/
import LinkTap.Proofs.Frame.Bounds

set_option autoImplicit false

namespace LinkTap.Frame

/-! ## The layers of a dissection -/

/-- Octets of all headers that were decoded. -/
def Dissection.headerLength (d : Dissection) : Nat :=
  (d.ethernet.map fun _ => Ethernet.headerLength).getD 0
    + (d.network.map Network.headerLength).getD 0
    + (d.transport.map Transport.headerLength).getD 0

/-- The dissection, layer by layer. -/
theorem dissect_eq (frame : Bytes) :
    let ethernet := Ethernet.ofBytes? frame
    let network := ethernet.bind fun e =>
      Network.ofBytes? e.etherType (frame.drop Ethernet.headerLength)
    let transport := network.bind fun n =>
      Transport.ofBytes? n.protocol (frame.drop (Ethernet.headerLength + n.headerLength))
    let length := Dissection.headerLength ⟨ethernet, network, transport, []⟩
    dissect frame = ⟨ethernet, network, transport, frame.drop length⟩ := by
  unfold dissect
  cases Ethernet.ofBytes? frame with
  | none => rfl
  | some e =>
    dsimp only [Option.bind_some]
    unfold dissectNetwork
    cases Network.ofBytes? e.etherType (frame.drop Ethernet.headerLength) with
    | none => rfl
    | some n =>
      dsimp only [Option.bind_some]
      unfold dissectTransport
      rw [List.drop_drop]
      cases Transport.ofBytes? n.protocol
        (frame.drop (Ethernet.headerLength + n.headerLength)) with
      | none => rfl
      | some t =>
        dsimp only
        rw [List.drop_drop]
        rfl

theorem dissect_ethernet (frame : Bytes) : (dissect frame).ethernet = Ethernet.ofBytes? frame := by
  rw [dissect_eq]

/-- The network header is looked for behind the Ethernet header, as its type says. -/
theorem dissect_network (frame : Bytes) :
    (dissect frame).network = (dissect frame).ethernet.bind fun e =>
      Network.ofBytes? e.etherType (frame.drop Ethernet.headerLength) := by
  rw [dissect_eq]

/-- The transport header is looked for behind the network header, however long that is. -/
theorem dissect_transport (frame : Bytes) :
    (dissect frame).transport = (dissect frame).network.bind fun n =>
      Transport.ofBytes? n.protocol (frame.drop (Ethernet.headerLength + n.headerLength)) := by
  rw [dissect_eq]

/-- The payload is what follows the headers that were found. -/
theorem dissect_payload (frame : Bytes) :
    (dissect frame).payload = frame.drop (dissect frame).headerLength := by
  rw [dissect_eq]
  rfl

variable {frame : Bytes}

/-- A network header stands behind an Ethernet header. -/
theorem of_dissect_network {n : Network} (h : (dissect frame).network = some n) :
    ∃ e, (dissect frame).ethernet = some e ∧ e.etherType = EtherType.ofWord (frame.be16 12)
      ∧ Network.ofBytes? e.etherType (frame.drop Ethernet.headerLength) = some n := by
  rw [dissect_network] at h
  obtain ⟨e, he, hn⟩ := Option.bind_eq_some_iff.mp h
  refine ⟨e, he, ?_, hn⟩
  rw [dissect_ethernet] at he
  exact Ethernet.etherType_eq he

/-- A transport header stands behind a network header. -/
theorem of_dissect_transport {t : Transport} (h : (dissect frame).transport = some t) :
    ∃ n, (dissect frame).network = some n
      ∧ Transport.ofBytes? n.protocol (frame.drop (Ethernet.headerLength + n.headerLength))
        = some t := by
  rw [dissect_transport] at h
  exact Option.bind_eq_some_iff.mp h

/-- The headers lie inside the frame. -/
theorem headerLength_dissect_le (frame : Bytes) : (dissect frame).headerLength ≤ frame.length := by
  unfold Dissection.headerLength
  cases hethernet : (dissect frame).ethernet with
  | none =>
    rw [dissect_transport, dissect_network, hethernet]
    exact Nat.zero_le _
  | some e =>
    have hlink : Ethernet.headerLength ≤ frame.length := by
      rw [dissect_ethernet] at hethernet
      exact length_le_of_eq_some Ethernet.ofBytes?_eq_none_iff hethernet
    cases hnetwork : (dissect frame).network with
    | none =>
      rw [dissect_transport, hnetwork]
      exact hlink
    | some n =>
      obtain ⟨_, -, -, hn⟩ := of_dissect_network hnetwork
      have hnetworkLength := Network.headerLength_le hn
      rw [List.length_drop] at hnetworkLength
      cases htransport : (dissect frame).transport with
      | none =>
        show Ethernet.headerLength + n.headerLength + 0 ≤ frame.length
        omega
      | some t =>
        obtain ⟨n', hn', ht⟩ := of_dissect_transport htransport
        rw [← Option.some.inj (hnetwork.symm.trans hn')] at ht
        have htransportLength := Transport.headerLength_le ht
        rw [List.length_drop] at htransportLength
        show Ethernet.headerLength + n.headerLength + t.headerLength ≤ frame.length
        omega

/-! ## The grammar -/

/-- What a dissection `d` of a frame is by the grammar. -/
structure Grammar (frame : Bytes) (d : Dissection) : Prop where
  ethernet : d.ethernet.isSome ↔ 14 ≤ frame.length
  network : d.network.isSome ↔ d.ethernet.isSome
    ∧ (frame.be16 12 = 0x0800 ∧ Ipv4.Present (frame.drop 14)
      ∨ frame.be16 12 = 0x86DD ∧ 40 ≤ (frame.drop 14).length)
  /-- An IPv4 header is as long as it declares. -/
  ipv4 : ∀ h, d.network = some (.ipv4 h) → frame.be16 12 = 0x0800
    ∧ h.headerLength = 4 * ((Bytes.octet (frame.drop 14) 0).toNat % 16)
    ∧ h.protocol.toByte = Bytes.octet (frame.drop 14) 9
  ipv6 : ∀ h, d.network = some (.ipv6 h) → frame.be16 12 = 0x86DD
    ∧ h.nextHeader.toByte = Bytes.octet (frame.drop 14) 6
  transport : d.transport.isSome ↔ ∃ n, d.network = some n
    ∧ (n.protocol.toByte = 6 ∧ Tcp.Present (frame.drop (14 + n.headerLength))
      ∨ n.protocol.toByte = 17 ∧ 8 ≤ (frame.drop (14 + n.headerLength)).length)
  /-- A TCP header is as long as it declares. -/
  tcp : ∀ h, d.transport = some (.tcp h) → ∃ n, d.network = some n ∧ n.protocol.toByte = 6
    ∧ h.headerLength = 4 * ((Bytes.octet (frame.drop (14 + n.headerLength)) 12).toNat / 16)
  udp : ∀ h, d.transport = some (.udp h) → ∃ n, d.network = some n ∧ n.protocol.toByte = 17
  payload : d.payload = frame.drop d.headerLength
  total : d.headerLength + d.payload.length = frame.length

theorem isSome_dissect_ethernet : (dissect frame).ethernet.isSome ↔ 14 ≤ frame.length := by
  rw [dissect_ethernet, Option.isSome_iff_ne_none, ne_eq, Ethernet.ofBytes?_eq_none_iff, Nat.not_lt]
  rfl

theorem isSome_dissect_network :
    (dissect frame).network.isSome ↔ (dissect frame).ethernet.isSome
      ∧ (frame.be16 12 = 0x0800 ∧ Ipv4.Present (frame.drop 14)
        ∨ frame.be16 12 = 0x86DD ∧ 40 ≤ (frame.drop 14).length) := by
  have hv4 : EtherType.ofWord (frame.be16 12) = .ipv4 ↔ frame.be16 12 = 0x0800 :=
    EtherType.ofWord_eq_iff rfl _
  have hv6 : EtherType.ofWord (frame.be16 12) = .ipv6 ↔ frame.be16 12 = 0x86DD :=
    EtherType.ofWord_eq_iff rfl _
  rw [← hv4, ← hv6]
  constructor
  · intro h
    obtain ⟨n, hn⟩ := Option.isSome_iff_exists.mp h
    obtain ⟨e, he, htype, hsome⟩ := of_dissect_network hn
    have hpresent := Network.isSome_ofBytes?_iff.mp (Option.isSome_of_eq_some hsome)
    rw [htype] at hpresent
    exact ⟨Option.isSome_of_eq_some he, hpresent⟩
  · rintro ⟨h, hpresent⟩
    obtain ⟨e, he⟩ := Option.isSome_iff_exists.mp h
    have htype : e.etherType = EtherType.ofWord (frame.be16 12) := by
      rw [dissect_ethernet] at he
      exact Ethernet.etherType_eq he
    rw [← htype] at hpresent
    rw [dissect_network, he, Option.bind_some]
    exact Network.isSome_ofBytes?_iff.mpr hpresent

theorem isSome_dissect_transport :
    (dissect frame).transport.isSome ↔ ∃ n, (dissect frame).network = some n
      ∧ (n.protocol.toByte = 6 ∧ Tcp.Present (frame.drop (14 + n.headerLength))
        ∨ n.protocol.toByte = 17 ∧ 8 ≤ (frame.drop (14 + n.headerLength)).length) := by
  have htcp : ∀ {t bs} {n : Network}, Network.ofBytes? t bs = some n →
      (n.protocol = .tcp ↔ n.protocol.toByte = 6) := fun h => Network.protocol_eq_iff h rfl
  have hudp : ∀ {t bs} {n : Network}, Network.ofBytes? t bs = some n →
      (n.protocol = .udp ↔ n.protocol.toByte = 17) := fun h => Network.protocol_eq_iff h rfl
  constructor
  · intro h
    obtain ⟨t, ht⟩ := Option.isSome_iff_exists.mp h
    obtain ⟨n, hn, hsome⟩ := of_dissect_transport ht
    obtain ⟨_, -, -, hnetwork⟩ := of_dissect_network hn
    have hpresent := Transport.isSome_ofBytes?_iff.mp (Option.isSome_of_eq_some hsome)
    rw [htcp hnetwork, hudp hnetwork] at hpresent
    exact ⟨n, hn, hpresent⟩
  · rintro ⟨n, hn, hpresent⟩
    obtain ⟨_, -, -, hnetwork⟩ := of_dissect_network hn
    rw [← htcp hnetwork, ← hudp hnetwork] at hpresent
    rw [dissect_transport, hn, Option.bind_some]
    exact Transport.isSome_ofBytes?_iff.mpr hpresent

/-- How long an IPv4 header is and what it announces, by the octets of the frame. -/
theorem dissect_ipv4 {h : Ipv4} (hh : (dissect frame).network = some (.ipv4 h)) :
    frame.be16 12 = 0x0800
      ∧ h.headerLength = 4 * ((Bytes.octet (frame.drop 14) 0).toNat % 16)
      ∧ h.protocol.toByte = Bytes.octet (frame.drop 14) 9 := by
  obtain ⟨e, -, htype, hsome⟩ := of_dissect_network hh
  rcases Network.of_ofBytes?_eq_some hsome with ⟨hv4, header, heq, hheader⟩ | ⟨-, header, heq, -⟩
  · cases heq
    obtain ⟨-, hlength, hprotocol⟩ := Ipv4.of_ofBytes?_eq_some hheader
    refine ⟨(EtherType.ofWord_eq_iff rfl _).mp (htype.symm.trans hv4), hlength, ?_⟩
    rw [hprotocol, IpProtocol.toByte_ofByte]
    rfl
  · cases heq

/-- An IPv6 header has a fixed length, so only the type and what it announces are of interest. -/
theorem dissect_ipv6 {h : Ipv6} (hh : (dissect frame).network = some (.ipv6 h)) :
    frame.be16 12 = 0x86DD ∧ h.nextHeader.toByte = Bytes.octet (frame.drop 14) 6 := by
  obtain ⟨e, -, htype, hsome⟩ := of_dissect_network hh
  rcases Network.of_ofBytes?_eq_some hsome with ⟨-, header, heq, -⟩ | ⟨hv6, header, heq, hheader⟩
  · cases heq
  · cases heq
    refine ⟨(EtherType.ofWord_eq_iff rfl _).mp (htype.symm.trans hv6), ?_⟩
    rw [Ipv6.nextHeader_eq hheader, IpProtocol.toByte_ofByte]
    rfl

/-- A TCP header stands behind a network header that announces it. -/
theorem dissect_tcp {h : Tcp} (hh : (dissect frame).transport = some (.tcp h)) :
    ∃ n, (dissect frame).network = some n ∧ n.protocol.toByte = 6
      ∧ h.headerLength
        = 4 * ((Bytes.octet (frame.drop (14 + n.headerLength)) 12).toNat / 16) := by
  obtain ⟨n, hn, hsome⟩ := of_dissect_transport hh
  obtain ⟨_, -, -, hnetwork⟩ := of_dissect_network hn
  rcases Transport.of_ofBytes?_eq_some hsome with ⟨htcp, header, heq, hheader⟩ | ⟨-, header, heq, -⟩
  · cases heq
    exact ⟨n, hn, (Network.protocol_eq_iff hnetwork rfl).mp htcp,
      (Tcp.of_ofBytes?_eq_some hheader).2⟩
  · cases heq

/-- So does a UDP header. -/
theorem dissect_udp {h : Udp} (hh : (dissect frame).transport = some (.udp h)) :
    ∃ n, (dissect frame).network = some n ∧ n.protocol.toByte = 17 := by
  obtain ⟨n, hn, hsome⟩ := of_dissect_transport hh
  obtain ⟨_, -, -, hnetwork⟩ := of_dissect_network hn
  rcases Transport.of_ofBytes?_eq_some hsome with ⟨-, header, heq, -⟩ | ⟨hudp, header, heq, -⟩
  · cases heq
  · exact ⟨n, hn, (Network.protocol_eq_iff hnetwork rfl).mp hudp⟩

/-- **Dissecting implements the grammar.** For every byte string, the headers that are there, their
lengths and the payload are the ones that the grammar calls for, and with every access checked the
dissection is the same: none is out of bounds. -/
theorem dissect_grammar (frame : Bytes) :
    Grammar frame (dissect frame) ∧ dissectChecked? frame = some (dissect frame) := by
  have htotal : (dissect frame).headerLength + (dissect frame).payload.length = frame.length := by
    have hle := headerLength_dissect_le frame
    rw [dissect_payload, List.length_drop]
    omega
  exact ⟨⟨isSome_dissect_ethernet, isSome_dissect_network, fun h hh => dissect_ipv4 hh,
    fun h hh => dissect_ipv6 hh, isSome_dissect_transport, fun h hh => dissect_tcp hh,
    fun h hh => dissect_udp hh, dissect_payload frame, htotal⟩, dissectChecked?_eq frame⟩

end LinkTap.Frame
