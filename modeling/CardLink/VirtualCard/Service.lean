import CardLink.Channel
import CardLink.VirtualCard.Network

/-!
# Card-side service

A service answers the frames of a reader from a channel. Powering and resetting read the card's ATR,
an ATR request sends it, a data frame is an APDU and gets exactly one answer; other codes are ignored. A
channel that fails on an APDU answers 6F00, a channel that fails on its ATR ends the service. The cancel
token is polled before each frame. A deadline between frames is no failure.
-/

namespace CardLink.VirtualCard

/-- A token that the world may set at any time, also between two polls. -/
class CancelToken (W : Type) where
  poll : W → Bool × W

/-- Why a service ended. -/
inductive ServiceEnd where
  | cancelled
  /-- The reader went away between two frames. -/
  | hungUp
  /-- Nothing more will arrive: the service stands and waits, for ever unless more is delivered. -/
  | waiting
  | failed (e : ChannelError)
  deriving DecidableEq, Repr

def ServiceEnd.result : ServiceEnd → Except ChannelError Unit
  | .failed e => .error e
  | _ => .ok ()

structure Service (κ W : Type) where
  channel : κ
  codec : Codec
  /-- The number of APDUs answered so far. -/
  served : Nat := 0
  world : W

/-- What one round of the service comes to. -/
inductive Round (κ W : Type) where
  | stop (ended : ServiceEnd) (s : Service κ W)
  | next (s : Service κ W)

def Round.service {κ W : Type} : Round κ W → Service κ W
  | .stop _ s => s
  | .next s => s

namespace Service

variable {κ W : Type} [CardChannel W κ]

/-- The answer to the bytes of an APDU. -/
def answer (apdu : Bytes) (k : κ) (w : W) : Response × κ × W :=
  match Command.parse apdu with
  | .error _ => (.statusOnly .noPreciseDiagnosis, k, w)
  | .ok command =>
    match CardChannel.transmit command k w with
    | (.ok response, k, w) => (response, k, w)
    | (.error _, k, w) => (.statusOnly .noPreciseDiagnosis, k, w)

def serveControl (code : ControlCode) (s : Service κ W) : Round κ W :=
  match code with
  | .powerOn | .reset =>
    match CardChannel.atr s.channel s.world with
    | (.error e, channel, world) => .stop (.failed e) { s with channel, world }
    | (.ok _, channel, world) => .next { s with channel, world }
  | .getAtr =>
    match CardChannel.atr s.channel s.world with
    | (.error e, channel, world) => .stop (.failed e) { s with channel, world }
    | (.ok atr, channel, world) =>
      match s.codec.writeData atr.bytes with
      | (.error e, codec) => .stop (.failed (.transport e)) { s with channel, codec, world }
      | (.ok (), codec) => .next { s with channel, codec, world }
  | .powerOff | .other _ => .next s

def serveData (s : Service κ W) : Round κ W :=
  match s.codec.readData with
  | (.error e, codec) => .stop (.failed (.transport e)) { s with codec }
  | (.ok apdu, codec) =>
    let (response, channel, world) := answer apdu s.channel s.world
    match codec.writeData response.encode with
    | (.error e, codec) => .stop (.failed (.transport e)) { s with channel, codec, world }
    | (.ok (), codec) => .next { channel, codec, served := s.served + 1, world }

/-- Answers the next frame. -/
def serveFrame (s : Service κ W) : Round κ W :=
  match s.codec.readCommand with
  | (.ok (.control code), codec) => serveControl code { s with codec }
  | (.ok (.data _), codec) => serveData { s with codec }
  | (.error .timeout, codec) => .next { s with codec }
  | (.error e, codec) =>
    let ended := if e = .connectionClosed Frame.headerSize 0 then .hungUp else .failed (.transport e)
    .stop ended { s with codec }

variable [CancelToken W]

def round (s : Service κ W) : Round κ W :=
  let (cancelled, world) := CancelToken.poll s.world
  if cancelled then .stop .cancelled { s with world }
  else if s.codec.isStarved then .stop .waiting { s with world }
  else serveFrame { s with world }

/-! ## Every round that goes on uses up the source -/

omit [CancelToken W] in
theorem serveControl_size (code : ControlCode) (s : Service κ W) :
    (serveControl code s).service.codec.source.size = s.codec.source.size := by
  unfold serveControl
  split
  · split <;> rfl
  · split <;> rfl
  · split
    · rfl
    · next atr channel world _ =>
      have h := Codec.writeData_source atr.bytes s.codec
      split <;> next heq => rw [heq] at h; exact congrArg Source.size h
  · rfl
  · rfl

omit [CancelToken W] in
theorem serveData_size_le (s : Service κ W) :
    (serveData s).service.codec.source.size ≤ s.codec.source.size := by
  have hr := Codec.readData_size_le s.codec
  unfold serveData
  split
  · next heq => rw [heq] at hr; exact hr
  · next apdu codec heq =>
    rw [heq] at hr
    simp only
    have h := Codec.writeData_source (answer apdu s.channel s.world).1.encode codec
    split <;> next hw =>
      rw [hw] at h
      simp only at h hr
      simpa [Round.service, h] using hr

omit [CancelToken W] in
theorem serveFrame_size_lt {s s' : Service κ W} (hs : s.codec.isStarved = false)
    (h : serveFrame s = .next s') : s'.codec.source.size < s.codec.source.size := by
  unfold serveFrame at h
  split at h
  · next code codec heq =>
    have hlt := Codec.readCommand_size_lt heq
    have hc := serveControl_size code { s with codec }
    rw [h] at hc
    exact hc ▸ hlt
  · next length codec heq =>
    have hlt := Codec.readCommand_size_lt heq
    have hd := serveData_size_le { s with codec }
    rw [h] at hd
    exact Nat.lt_of_le_of_lt hd hlt
  · next codec heq =>
    cases h
    exact Codec.readCommand_timeout_size_lt hs heq
  · simp at h

theorem round_size_lt {s s' : Service κ W} (h : round s = .next s') :
    s'.codec.source.size < s.codec.source.size := by
  unfold round at h
  simp only at h
  split at h
  · simp at h
  · split at h
    · simp at h
    · next hs =>
      exact serveFrame_size_lt (s := { s with world := (CancelToken.poll s.world).2 })
        (Bool.eq_false_iff.mpr hs) h

/-- Answers frames until the service ends. -/
def serve (s : Service κ W) : ServiceEnd × Service κ W :=
  match _h : round s with
  | .stop ended s => (ended, s)
  | .next s' => serve s'
  termination_by s.codec.source.size
  decreasing_by exact round_size_lt (by assumption)

end Service

/-! ## Serving over the network -/

/-- A channel that is offered to a reader. -/
structure Offer (κ : Type) where
  channel : κ
  config : Config
  /-- The port bound for the reader. -/
  bound : Option Nat := none
  served : Nat := 0
  deriving Repr

namespace Offer

variable {κ W : Type} [CardChannel W κ] [CancelToken W] [Network W]

omit [CardChannel W κ] [CancelToken W] in
/-- Binds the listening port ahead of the run and gives it. -/
def bind (o : Offer κ) (w : W) : Outcome (Offer κ) W Nat :=
  if o.config.isListener then
    match listen o.config.port o.bound w with
    | (.error e, w) => (.error (.transport e), { o with bound := none }, w)
    | (.ok port, w) => (.ok port, { o with bound := some port }, w)
  else (.error (.unsupported "bind on a connecting virtual card"), o, w)

/-- Connects to one reader and serves it until the service ends, then hangs up. -/
def run (o : Offer κ) (w : W) : Outcome (Offer κ) W Unit :=
  let (cancelled, w) := CancelToken.poll w
  match establish o.config o.bound cancelled w with
  | (.error e, bound, w) => (.error (.transport e), { o with bound }, w)
  | (.ok link, bound, world) =>
    let (ended, s) :=
      Service.serve { channel := o.channel, codec := link.codec, served := o.served, world }
    (ended.result, { o with channel := s.channel, bound, served := s.served },
      Network.hangUp link.id s.codec s.world)

end Offer
end CardLink.VirtualCard
