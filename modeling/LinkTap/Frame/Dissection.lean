/-
A frame taken apart, layer by layer.

Each layer is decoded only behind a decoded layer that announces it, and each decoded header moves
the payload to the octets behind it. Decoding stops at the first layer that is unknown or
incomplete; what is left, possibly the whole frame, is payload.
-/
import LinkTap.Frame.Ethernet
import LinkTap.Frame.Internet
import LinkTap.Frame.Transport

set_option autoImplicit false

namespace LinkTap.Frame

/-- A header of the network layer. -/
inductive Network where
  | ipv4 (header : Ipv4)
  | ipv6 (header : Ipv6)
  deriving DecidableEq, Repr

namespace Network

/-- What the header announces behind itself. -/
def protocol : Network → IpProtocol
  | ipv4 h => h.protocol
  | ipv6 h => h.nextHeader

/-- Octets of the header. -/
def headerLength : Network → Nat
  | ipv4 h => h.headerLength
  | ipv6 _ => Ipv6.headerLength

/-- Decode the network header that `etherType` announces at the front of `bs`. -/
def ofBytes? (etherType : EtherType) (bs : Bytes) : Option Network :=
  match etherType with
  | .ipv4 => (Ipv4.ofBytes? bs).map ipv4
  | .ipv6 => (Ipv6.ofBytes? bs).map ipv6
  | _ => none

end Network

/-- A header of the transport layer. -/
inductive Transport where
  | tcp (header : Tcp)
  | udp (header : Udp)
  deriving DecidableEq, Repr

namespace Transport

def sourcePort : Transport → UInt16
  | tcp h => h.sourcePort
  | udp h => h.sourcePort

def destinationPort : Transport → UInt16
  | tcp h => h.destinationPort
  | udp h => h.destinationPort

/-- Octets of the header. -/
def headerLength : Transport → Nat
  | tcp h => h.headerLength
  | udp _ => Udp.headerLength

/-- Decode the transport header that `protocol` announces at the front of `bs`. -/
def ofBytes? (protocol : IpProtocol) (bs : Bytes) : Option Transport :=
  match protocol with
  | .tcp => (Tcp.ofBytes? bs).map tcp
  | .udp => (Udp.ofBytes? bs).map udp
  | _ => none

end Transport

/-- The layers of a frame that could be decoded, and what lies behind them. -/
structure Dissection where
  ethernet : Option Ethernet
  network : Option Network
  transport : Option Transport
  payload : Bytes
  deriving DecidableEq, Repr

/-- The transport layer and the payload behind a network header. -/
def dissectTransport (ethernet : Ethernet) (network : Network) (rest : Bytes) : Dissection :=
  match Transport.ofBytes? network.protocol rest with
  | none => ⟨some ethernet, some network, none, rest⟩
  | some t => ⟨some ethernet, some network, some t, rest.drop t.headerLength⟩

/-- The network layer and all behind an Ethernet header. -/
def dissectNetwork (ethernet : Ethernet) (rest : Bytes) : Dissection :=
  match Network.ofBytes? ethernet.etherType rest with
  | none => ⟨some ethernet, none, none, rest⟩
  | some n => dissectTransport ethernet n (rest.drop n.headerLength)

/-- Take a frame apart. -/
def dissect (frame : Bytes) : Dissection :=
  match Ethernet.ofBytes? frame with
  | none => ⟨none, none, none, frame⟩
  | some e => dissectNetwork e (frame.drop Ethernet.headerLength)

namespace Dissection

/-- How many layers were decoded. -/
def layerCount (d : Dissection) : Nat :=
  d.ethernet.isSome.toNat + d.network.isSome.toNat + d.transport.isSome.toNat

def ipv4? (d : Dissection) : Option Ipv4 :=
  match d.network with
  | some (.ipv4 h) => some h
  | _ => none

def ipv6? (d : Dissection) : Option Ipv6 :=
  match d.network with
  | some (.ipv6 h) => some h
  | _ => none

def tcp? (d : Dissection) : Option Tcp :=
  match d.transport with
  | some (.tcp h) => some h
  | _ => none

def udp? (d : Dissection) : Option Udp :=
  match d.transport with
  | some (.udp h) => some h
  | _ => none

/-! ## Summary text -/

def ethernetLine (h : Ethernet) : String :=
  s!"  Ethernet: {h.source.text} -> {h.destination.text}"
    ++ s!" (Type: 0x{Numeral.hexPadded 4 h.etherType.toWord.toNat})"

def networkLine : Network → String
  | .ipv4 h =>
    s!"  IPv4: {h.source.text} -> {h.destination.text} (Proto: {h.protocol.toByte.toNat})"
  | .ipv6 h =>
    s!"  IPv6: {h.source.text} -> {h.destination.text} (Next: {h.nextHeader.toByte.toNat})"

def transportLine : Transport → String
  | .tcp h => s!"  TCP: {h.sourcePort.toNat} -> {h.destinationPort.toNat} (Flags: {h.flags.text})"
  | .udp h => s!"  UDP: {h.sourcePort.toNat} -> {h.destinationPort.toNat} (Len: {h.length.toNat})"

/-- A line for each decoded layer and one for the payload; the last line is not ended. -/
def text (d : Dissection) : String :=
  let layers := (d.ethernet.map ethernetLine).toList ++ (d.network.map networkLine).toList
    ++ (d.transport.map transportLine).toList
  String.intercalate "\n" (["Packet:"] ++ layers ++ [s!"  Payload: {d.payload.length} bytes"])

end Dissection

end LinkTap.Frame
