import CardLink.VirtualCard.Config
import CardLink.VirtualCard.HostAddress
import CardLink.Wire.Codec

/-!
# Connecting to a peer

The network is what the world offers for connecting; it may fail in any way. Both roles establish one
connection with it: the dialling side tries every address of the host in turn, the listening side binds its
port, keeps it bound, and accepts one peer. A cancel token is looked at before an address is tried and
before a peer is accepted.
-/

namespace CardLink.VirtualCard

structure Address where
  host : HostAddress
  port : Nat
  deriving DecidableEq, Repr

/-- An open connection: its identity, what it will deliver and how it takes writes. -/
structure Connection where
  id : Nat
  source : Source
  sink : Sink := {}
  deriving DecidableEq, Repr

class Network (W : Type) where
  /-- The addresses of a host, or why there are none. -/
  resolve : String → Nat → W → Except String (List Address) × W
  /-- Dials an address within a deadline. -/
  dial : Address → Option Nat → W → Except IoError Connection × W
  /-- Binds a port, zero for any free one, and gives the port that was bound. -/
  bind : Nat → W → Except IoError Nat × W
  /-- Waits at a bound port for one peer. -/
  accept : Nat → Option Nat → W → Except TransportError Connection × W
  /-- Ends a connection in both directions; the codec holds what was read and written on it. -/
  hangUp : Nat → Codec → W → W
  unbind : Nat → W → W

/-- A connection of which frames are read and written. -/
structure Link where
  id : Nat
  codec : Codec
  deriving DecidableEq, Repr

section

variable {W : Type} [Network W]

/-- What dialling all addresses in vain is reported as: the failure of the last one tried. -/
def dialFailure (host : String) (port : Nat) : Option IoError → TransportError
  | none => .connection (host ++ ":" ++ toString port ++ ": no address resolved")
  | some e =>
    if e.kind.isDeadline then .timeout
    else .connection (host ++ ":" ++ toString port ++ ": " ++ e.text)

def dialAny (host : String) (port : Nat) (deadline : Option Nat) (cancelled : Bool)
    (last : Option IoError) : List Address → W → Except TransportError Connection × W
  | [], w => (.error (dialFailure host port last), w)
  | address :: rest, w =>
    if cancelled then (.error .cancelled, w)
    else
      match Network.dial address deadline w with
      | (.ok connection, w) => (.ok connection, w)
      | (.error e, w) => dialAny host port deadline cancelled (some e) rest w

def dial (host : String) (port : Nat) (deadline : Option Nat) (cancelled : Bool) (w : W) :
    Except TransportError Connection × W :=
  match Network.resolve host port w with
  | (.error reason, w) =>
    (.error (.connection ("cannot resolve " ++ host ++ ":" ++ toString port ++ ": " ++ reason)), w)
  | (.ok addresses, w) => dialAny host port deadline cancelled none addresses w

/-- The bound port, binding it if that was not done before. -/
def listen (port : Nat) (bound : Option Nat) (w : W) : Except TransportError Nat × W :=
  match bound with
  | some port => (.ok port, w)
  | none =>
    match Network.bind port w with
    | (.error e, w) => (.error (.io e), w)
    | (.ok port, w) => (.ok port, w)

/-- Listens and accepts one peer. The port stays bound whether or not a peer came. -/
def accept (port : Nat) (bound : Option Nat) (deadline : Option Nat) (cancelled : Bool) (w : W) :
    Except TransportError Connection × Option Nat × W :=
  match listen port bound w with
  | (.error e, w) => (.error e, none, w)
  | (.ok port, w) =>
    if cancelled then (.error .cancelled, some port, w)
    else
      let (outcome, w) := Network.accept port deadline w
      (outcome, some port, w)

def connect (config : Config) (bound : Option Nat) (cancelled : Bool) (w : W) :
    Except TransportError Connection × Option Nat × W :=
  match config.host with
  | some host =>
    let (outcome, w) := dial host config.port config.connectTimeout cancelled w
    (outcome, bound, w)
  | none => accept config.port bound config.connectTimeout cancelled w

/-- A read deadline of zero cannot be set. -/
def zeroDeadline : IoError := ⟨.invalidInput, "cannot set a 0 duration timeout"⟩

def Connection.codec (connection : Connection) (config : Config) : Codec :=
  { source := connection.source, sink := connection.sink, maxResponse := config.maxResponse }

/-- Connects in the configured role and puts a codec on the connection. -/
def establish (config : Config) (bound : Option Nat) (cancelled : Bool) (w : W) :
    Except TransportError Link × Option Nat × W :=
  match connect config bound cancelled w with
  | (.error e, bound, w) => (.error e, bound, w)
  | (.ok connection, bound, w) =>
    let link : Link := { id := connection.id, codec := connection.codec config }
    if config.readTimeout = some 0 then
      (.error (.io zeroDeadline), bound, Network.hangUp link.id link.codec w)
    else (.ok link, bound, w)

end

end CardLink.VirtualCard
