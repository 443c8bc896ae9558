import CardLink.Normalization.Channel
import CardLink.VirtualCard.Network
import CardLink.VirtualCard.Service

/-!
# A host of its own

A world in which channels can be run: a network whose peers are scripts, the debug log, a cancel token that
stays set, and whatever the caller's cards record. On a host without a route nobody can be reached and
nobody calls. A wait that nothing ends goes on as if it had hit a deadline, and the network remembers that
what follows does not take place.
-/

namespace CardLink.VirtualCard

/-- A peer that sends bytes when it is connected and after each frame that it reads. -/
structure Peer where
  first : Bytes := []
  /-- The bytes sent after each frame, in order; possibly none. -/
  replies : List Bytes := []
  /-- Whether the peer stops sending after its last reply. It keeps reading. -/
  hangsUp : Bool := false
  deriving DecidableEq, Repr

namespace Peer

def chunk (bytes : Bytes) : List ReadEvent := if bytes = [] then [] else [.chunk bytes]

/-- What the replies deliver when `frames` frames were read before them. -/
def replyEvents (frames : Nat) : List Bytes → List ReadEvent
  | [] => []
  | reply :: rest => .await (frames + 1) :: chunk reply ++ replyEvents (frames + 1) rest

def source (p : Peer) : Source :=
  { events := chunk p.first ++ replyEvents 0 p.replies
    atEnd := if p.hangsUp then .eof else .silent }

end Peer

structure LocalNetwork where
  /-- Whether packets find their way at all. -/
  routed : Bool := false
  /-- Peers that wait for one caller on a port, with the identity of the connection. -/
  listening : List (Nat × Nat × Peer) := []
  /-- Peers that dial a port once. -/
  calling : List (Nat × Nat × Peer) := []
  /-- The ports that were bound and not given back. -/
  bound : List Nat := []
  /-- Whether a peer is waited for that never comes. -/
  waitsForever : Bool := false
  /-- The connections that were ended and all bytes written on them, in order. -/
  ended : List (Nat × Bytes) := []
  deriving DecidableEq, Repr

namespace LocalNetwork

/-- A network with one peer more, which dials the port or waits there. -/
def addPeer (dials : Bool) (port id : Nat) (p : Peer) (n : LocalNetwork) : LocalNetwork :=
  if dials then { n with calling := (port, id, p) :: n.calling }
  else { n with listening := (port, id, p) :: n.listening }

def unreachable : IoError := ⟨.networkUnreachable, "Network is unreachable (os error 101)"⟩

def refused : IoError := ⟨.connectionRefused, "Connection refused (os error 111)"⟩

def notAvailable : IoError :=
  ⟨.addressNotAvailable, "Cannot assign requested address (os error 99)"⟩

def noInterface : IoError := ⟨.invalidInput, "Invalid argument (os error 22)"⟩

def denied : IoError := ⟨.permissionDenied, "Permission denied (os error 13)"⟩

def inUse : IoError := ⟨.addressInUse, "Address already in use (os error 98)"⟩

/-- Why an address is not reached without a route. A single host of version 6 already lacks an address
to be called from, and one that is local to an interface has to name it. -/
def unrouted : HostAddress → IoError
  | .v4 _ => unreachable
  | .v6 groups scope =>
    if HostAddress.isMulticast groups || HostAddress.isMapped groups then unreachable
    else if HostAddress.isLinkLocal groups && scope == 0 then noInterface
    else notAvailable

/-- Why a host that is not known is not found. Only for a name could a name server be asked. -/
def unresolved (host : String) : String :=
  if host.contains '\x00' then "file name contained an unexpected NUL byte"
  else if isHostName host then
    "failed to lookup address information: Temporary failure in name resolution"
  else "failed to lookup address information: Name or service not known"

/-- Hosts are known by address, and this host by its usual name. -/
def resolve (host : String) (port : Nat) : Except String (List Address) :=
  match HostAddress.parse? host with
  | some address => .ok [⟨address, port⟩]
  | none =>
    if Text.equalsIgnoringCase host "localhost" then .ok [⟨.loopback, port⟩]
    else .error (unresolved host)

def dial (address : Address) (n : LocalNetwork) : Except IoError Connection × LocalNetwork :=
  if n.routed then
    match n.listening.find? fun entry => entry.1 == address.port with
    | none => (.error refused, n)
    | some (port, id, peer) =>
      (.ok ⟨id, peer.source, {}⟩, { n with listening := n.listening.erase (port, id, peer) })
  else (.error (unrouted address.host), n)

/-- The ports that somebody waits at. -/
def taken (n : LocalNetwork) : List Nat := n.listening.map (·.1) ++ n.bound

/-- The port given for port zero: one that nobody waits at. -/
def freePort (n : LocalNetwork) : Nat :=
  49152 + ((List.range n.taken.length).find? fun k => !n.taken.contains (49152 + k)).getD n.taken.length

/-- Binds a port. Those below 1024 are kept for others. -/
def bind (port : Nat) (n : LocalNetwork) : Except IoError Nat × LocalNetwork :=
  if port = 0 then (.ok n.freePort, { n with bound := n.freePort :: n.bound })
  else if port < 1024 then (.error denied, n)
  else if n.taken.contains port then (.error inUse, n)
  else (.ok port, { n with bound := port :: n.bound })

def unbind (port : Nat) (n : LocalNetwork) : LocalNetwork :=
  { n with bound := n.bound.erase port }

/-- The longest wait, in milliseconds, that is sat out; a longer one counts as one without an end. -/
def patience : Nat := 60000

def accept (port : Nat) (deadline : Option Nat) (n : LocalNetwork) :
    Except TransportError Connection × LocalNetwork :=
  match n.calling.find? fun entry => n.routed && entry.1 == port with
  | none =>
    let ends := deadline.any (· ≤ patience)
    (.error .timeout, { n with waitsForever := n.waitsForever || !ends })
  | some (port, id, peer) =>
    (.ok ⟨id, peer.source, {}⟩, { n with calling := n.calling.erase (port, id, peer) })

def hangUp (id : Nat) (codec : Codec) (n : LocalNetwork) : LocalNetwork :=
  { n with ended := n.ended ++ [(id, codec.sink.accepted)] }

/-- The payloads of the frames that a peer read; none if nobody was connected to it. -/
def framesOf (id : Nat) (n : LocalNetwork) : Option (List Bytes) :=
  (n.ended.find? fun entry => entry.1 == id).map fun entry => (Frame.split entry.2).1

end LocalNetwork

structure LocalHost (ε : Type) where
  network : LocalNetwork := {}
  cancelled : Bool := false
  log : Array LogEvent := #[]
  /-- What the caller's cards recorded. -/
  events : Array ε := #[]

namespace LocalHost

variable {ε : Type}

def record (e : ε) (w : LocalHost ε) : LocalHost ε := { w with events := w.events.push e }

instance : Host (LocalHost ε) where
  now _ := 0
  log event w := { w with log := w.log.push event }

instance : CancelToken (LocalHost ε) where
  poll w := (w.cancelled, w)

instance : Network (LocalHost ε) where
  resolve host port w := (LocalNetwork.resolve host port, w)
  dial address _ w :=
    let (outcome, network) := w.network.dial address
    (outcome, { w with network })
  bind port w :=
    let (outcome, network) := w.network.bind port
    (outcome, { w with network })
  accept port deadline w :=
    let (outcome, network) := w.network.accept port deadline
    (outcome, { w with network })
  hangUp id codec w := { w with network := w.network.hangUp id codec }
  unbind port w := { w with network := w.network.unbind port }

end LocalHost
end CardLink.VirtualCard
