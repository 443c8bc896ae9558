import CardLink.Channel
import CardLink.Text.Quoted
import CardLink.VirtualCard.Network

/-!
# Reader-side sessions

A session is a channel to a card at the other end of a connection. Nothing touches the network before the
first exchange or ATR request. A power-on frame opens every connection and a reset frame ends it. A failed
exchange leaves the connection as it is, possibly out of step; closing it is up to the owner. After closing,
the calls that need the card are refused, while the protocol and exclusive use are answered as before.
-/

namespace CardLink.VirtualCard

structure Session where
  config : Config
  /-- Whether the token that aborts a pending dial or accept was set. -/
  cancelled : Bool := false
  /-- The port bound for the peer. -/
  bound : Option Nat := none
  link : Option Link := none
  closed : Bool := false
  deriving DecidableEq, Repr

namespace Session

def isConnected (s : Session) : Bool := s.link.isSome

def cancel (s : Session) : Session := { s with cancelled := true }

variable {W : Type} [Network W]

/-- Binds the listening port ahead of the first exchange and gives it. -/
def bind (s : Session) (w : W) : Outcome Session W Nat :=
  if s.closed then (.error .closed, s, w)
  else if s.config.isListener then
    match listen s.config.port s.bound w with
    | (.error e, w) => (.error (.transport e), { s with bound := none }, w)
    | (.ok port, w) => (.ok port, { s with bound := some port }, w)
  else (.error (.unsupported "bind on a connector channel"), s, w)

/-- Opens a connection and powers the card. -/
def establish (s : Session) (w : W) : Outcome Session W Link :=
  match VirtualCard.establish s.config s.bound s.cancelled w with
  | (.error e, bound, w) => (.error (.transport e), { s with bound }, w)
  | (.ok link, bound, w) =>
    match link.codec.writeCommand .powerOn with
    | (.error e, codec) =>
      (.error (.transport e), { s with bound }, Network.hangUp link.id codec w)
    | (.ok (), codec) =>
      let link := { link with codec }
      (.ok link, { s with bound, link := some link }, w)

/-- The connection, opened now if there is none yet. -/
def open? (s : Session) (w : W) : Outcome Session W Link :=
  if s.closed then (.error .closed, s, w)
  else
    match s.link with
    | some link => (.ok link, s, w)
    | none => establish s w

def connect (s : Session) (w : W) : Outcome Session W Unit :=
  (s.open? w).map fun _ => ()

/-- Puts the codec back after frames went over it. -/
def withCodec (s : Session) (link : Link) (codec : Codec) : Session :=
  { s with link := some { link with codec } }

/-- Writes one frame and reads the answer to it. -/
def exchange (write : Codec → Except TransportError Unit × Codec) (codec : Codec) :
    Except TransportError Bytes × Codec :=
  match write codec with
  | (.error e, codec) => (.error e, codec)
  | (.ok (), codec) => codec.readResponse

def transmit (command : Command) (s : Session) (w : W) : Outcome Session W Response :=
  match s.open? w with
  | (.error e, s, w) => (.error e, s, w)
  | (.ok link, s, w) =>
    match exchange (Codec.writeData command.encode) link.codec with
    | (.error e, codec) => (.error (.transmit e), s.withCodec link codec, w)
    | (.ok raw, codec) =>
      let outcome := match Response.parse raw with
        | .error e => .error (.response e)
        | .ok response => .ok response
      (outcome, s.withCodec link codec, w)

def atr (s : Session) (w : W) : Outcome Session W Atr :=
  match s.open? w with
  | (.error e, s, w) => (.error e, s, w)
  | (.ok link, s, w) =>
    match exchange (Codec.writeCommand .getAtr) link.codec with
    | (.error e, codec) => (.error (.transport e), s.withCodec link codec, w)
    | (.ok raw, codec) => (.ok ⟨raw⟩, s.withCodec link codec, w)

/-- Resets the card, ends the connection and gives the port back. Never fails. -/
def shut (s : Session) (w : W) : Session × W :=
  if s.closed then (s, w)
  else
    let w := match s.link with
      | none => w
      | some link => Network.hangUp link.id (link.codec.writeCommand .reset).2 w
    let w := match s.bound with
      | none => w
      | some port => Network.unbind port w
    ({ s with closed := true, link := none, bound := none }, w)

def close (s : Session) (w : W) : Outcome Session W Unit := (.ok (), s.shut w)

omit [Network W] in
def describe (s : Session) : String :=
  let address := match s.config.remoteAddress with
    | none => "None"
    | some address => "Some(" ++ Text.quote address ++ ")"
  "VirtualCardChannel \x7b remote_address: " ++ address ++ ", port: " ++ toString s.config.port
    ++ ", connected: " ++ toString s.isConnected ++ ", closed: " ++ toString s.closed ++ " \x7d"

end Session

instance : ChannelTraits Session where

instance {W : Type} [Network W] : CardChannel W Session where
  transmit := Session.transmit
  atr := Session.atr
  close := Session.close
  release s w := (s.shut w).2

end CardLink.VirtualCard
