/-
Network interfaces: what a host says about one, and how fit it is for capture.

The kind of an interface is guessed from its name, by the first family of prefixes that fits; the
loopback flag overrules the name. Kind, state and traffic add up to a score.
-/
import LinkTap.IpAddress
import LinkTap.MacAddress

set_option autoImplicit false

namespace LinkTap

/-! ## Kinds -/

/-- The kind of an interface. -/
inductive InterfaceKind where
  | ethernet
  | wireless
  | bridge
  | tunnel
  | virtual
  | loopback
  | unknown
  deriving DecidableEq, Repr

namespace InterfaceKind

/-- The name prefixes of each kind, in the order in which they are tried. -/
def families : List (List String × InterfaceKind) :=
  [ (["veth", "docker", "lxc", "vir"], virtual),
    (["eth", "en"], ethernet),
    (["wlan", "wl", "wifi", "ath"], wireless),
    (["bridge", "br"], bridge),
    (["tun", "tap", "vpn"], tunnel) ]

/-- The kind of an interface by its name and its loopback flag. -/
def classify (name : String) (isLoopback : Bool) : InterfaceKind :=
  if isLoopback then loopback
  else
    match families.find? fun f => f.1.any fun p => p.toList.isPrefixOf name.toList with
    | some family => family.2
    | none => unknown

/-- How much a kind counts towards the score. -/
def bonus : InterfaceKind → Nat
  | ethernet => 100
  | wireless => 80
  | bridge => 60
  | tunnel => 40
  | virtual => 20
  | loopback | unknown => 10

def text : InterfaceKind → String
  | ethernet => "ethernet"
  | wireless => "wireless"
  | bridge => "bridge"
  | tunnel => "tunnel"
  | virtual => "virtual"
  | loopback => "loopback"
  | unknown => "unknown"

end InterfaceKind

/-! ## Interfaces -/

/-- Traffic through an interface since it came up. -/
structure InterfaceCounters where
  rxBytes : Nat := 0
  rxPackets : Nat := 0
  rxErrors : Nat := 0
  txBytes : Nat := 0
  txPackets : Nat := 0
  txErrors : Nat := 0
  deriving DecidableEq, Repr

/-- The flags of an interface that matter for capture. -/
structure InterfaceFlags where
  up : Bool := false
  running : Bool := false
  loopback : Bool := false
  broadcast : Bool := false
  pointToPoint : Bool := false
  multicast : Bool := false
  deriving DecidableEq, Repr

/-- One network interface as the host describes it. -/
structure Interface where
  name : String
  index : Nat
  /-- Zero when the host does not say. -/
  mtu : Nat
  flags : InterfaceFlags
  mac : Option MacAddress := none
  ips : List IpAddress := []
  counters : InterfaceCounters := {}
  deriving DecidableEq, Repr

namespace Interface

def isUp (i : Interface) : Bool := i.flags.up

def isRunning (i : Interface) : Bool := i.flags.running

def isLoopback (i : Interface) : Bool := i.flags.loopback

/-- Loopback always delivers frames; another link does if it is a broadcast or a point-to-point
link. -/
def supportsCapture (i : Interface) : Bool :=
  i.flags.loopback || i.flags.broadcast || i.flags.pointToPoint

def kind (i : Interface) : InterfaceKind := InterfaceKind.classify i.name i.flags.loopback

/-- Fitness as the default capture target; more is better. -/
def score (i : Interface) : Nat :=
  i.kind.bonus
    + (if i.flags.running then 50 else 0)
    + (if i.flags.broadcast then 30 else 0)
    + (if 1500 ≤ i.mtu then 20 else 0)
    + (if 0 < i.counters.rxPackets then 10 else 0)

/-- The first IPv4 address. -/
def primaryIpv4 (i : Interface) : Option IpAddress := i.ips.find? IpAddress.isV4

/-- The first IPv6 address. -/
def primaryIpv6 (i : Interface) : Option IpAddress := i.ips.find? IpAddress.isV6

/-! ## Choosing a default -/

/-- Up, running, no loopback, and able to deliver frames. -/
def isCandidate (i : Interface) : Bool :=
  i.isUp && i.isRunning && !i.isLoopback && i.supportsCapture

/-- Whether `a` is preferred to `b`: a higher score, then more received packets, then the lower
index. -/
def outranks (a b : Interface) : Bool :=
  if a.score ≠ b.score then decide (b.score < a.score)
  else if a.counters.rxPackets ≠ b.counters.rxPackets then
    decide (b.counters.rxPackets < a.counters.rxPackets)
  else decide (a.index < b.index)

/-- An interface that no other one outranks, the last one among equals. -/
def best? : List Interface → Option Interface
  | [] => none
  | i :: rest => some (rest.foldl (fun best next => if best.outranks next then best else next) i)

/-- The default capture target: the best candidate; without one the first interface that is up and
no loopback; without that the loopback if nothing else is up. -/
def selectDefault (interfaces : List Interface) : Except Error Interface :=
  match best? (interfaces.filter isCandidate) with
  | some i => .ok i
  | none =>
    let up := interfaces.filter isUp
    match up.find? fun i => !i.isLoopback with
    | some i => .ok i
    | none =>
      match up with
      | [only] => .ok only
      | _ => .error .noInterfaces

end Interface

end LinkTap
