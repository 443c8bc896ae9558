import CardLink.Channel
import CardLink.Normalization

/-!
# Normalizing channels

A normalizing channel stands in front of another one. It normalizes each command, refuses what does not
fit a short APDU, and only then calls the channel inside; all other calls go straight through. It keeps
the last command it handed on and how long that took. While debugging is on, the host's log gets one event
before and one after each exchange.
-/

namespace CardLink

/-- Events of the debug log. The elapsed time is in milliseconds. -/
inductive LogEvent where
  | request (command : Command)
  | answer (response : Response) (elapsed : Nat)
  | failure (error : ChannelError) (elapsed : Nat)
  deriving DecidableEq, Repr

/-- What a normalizing channel needs from the world: a clock and a log. -/
class Host (W : Type) where
  now : W → Nat
  log : LogEvent → W → W

structure Normalized (κ : Type) where
  inner : κ
  options : NormalizeOptions
  /-- The last command handed to the inner channel, as it was handed on. -/
  lastCommand : Option Command := none
  lastDuration : Nat := 0
  deriving Repr

namespace Normalized

variable {W κ : Type} [ChannelTraits κ] [Host W] [CardChannel W κ]

/-- Refuses a channel that normalizes already, without calling it. -/
def wrap (options : NormalizeOptions) (inner : κ) : Except ChannelError (Normalized κ) :=
  if ChannelTraits.isWrapped inner then .error .doubleWrap else .ok { inner, options }

def normalize (n : Normalized κ) (c : Command) : Command := n.options.normalize c

def logIf (debug : Bool) (event : LogEvent) (w : W) : W :=
  if debug then Host.log event w else w

/-- Hands a command on as it is. -/
def forward (c : Command) (n : Normalized κ) (w : W) : Outcome (Normalized κ) W Response :=
  let w := logIf n.options.debug (.request c) w
  let started := Host.now w
  let (result, inner, w) := CardChannel.transmit c n.inner w
  let elapsed := Host.now w - started
  let event := match result with
    | .ok response => .answer response elapsed
    | .error e => .failure e elapsed
  (result, { n with inner, lastCommand := some c, lastDuration := elapsed },
    logIf n.options.debug event w)

/-- A command that does not fit after normalization changes nothing. -/
def transmit (c : Command) (n : Normalized κ) (w : W) : Outcome (Normalized κ) W Response :=
  match (n.normalize c).checkLengths with
  | .error e => (.error (.command e), n, w)
  | .ok () => forward (n.normalize c) n w

def mapInner {α : Type} (n : Normalized κ) (o : Outcome κ W α) : Outcome (Normalized κ) W α :=
  o.lift fun inner => { n with inner }

instance : ChannelTraits (Normalized κ) where
  number n := ChannelTraits.number n.inner
  isWrapped _ := true

instance : CardChannel W (Normalized κ) where
  transmit := transmit
  atr n w := n.mapInner (CardChannel.atr n.inner w)
  close n w := n.mapInner (CardChannel.close n.inner w)
  protocol n w := n.mapInner (CardChannel.protocol n.inner w)
  beginExclusive n w := n.mapInner (CardChannel.beginExclusive n.inner w)
  endExclusive n w := n.mapInner (CardChannel.endExclusive n.inner w)
  disconnect reset n w := n.mapInner (CardChannel.disconnect reset n.inner w)
  release n w := CardChannel.release n.inner w

/-- Transmits raw bytes and writes the encoded response to the front of the buffer. The outcome is the
number of bytes written; every failure leaves the buffer alone. -/
def transmitBuffer (bytes buffer : Bytes) (n : Normalized κ) (w : W) :
    Outcome (Normalized κ) W Nat × Bytes :=
  match Command.parse bytes with
  | .error e => ((.error (.command e), n, w), buffer)
  | .ok c =>
    match transmit c n w with
    | (.error e, n, w) => ((.error e, n, w), buffer)
    | (.ok response, n, w) =>
      let encoded := response.encode
      if buffer.length < encoded.length then
        ((.error (.bufferTooSmall encoded.length buffer.length), n, w), buffer)
      else ((.ok encoded.length, n, w), encoded ++ buffer.drop encoded.length)

end Normalized

/-! ## Calls in sequence -/

/-- A change to one of the options. -/
inductive OptionChange where
  | fixLc (on : Bool)
  | fixNe (on : Option Bool)
  | defaultNe (ne : Option Nat)
  | debug (on : Bool)
  deriving DecidableEq, Repr

def NormalizeOptions.change (o : NormalizeOptions) : OptionChange → NormalizeOptions
  | .fixLc on => { o with fixLc := on }
  | .fixNe on => { o with fixNe := on }
  | .defaultNe ne => { o with defaultNe := ne }
  | .debug on => { o with debug := on }

/-- The calls on a normalizing channel. Those on the inner channel go around normalization. -/
inductive NormalizedRequest where
  | channel (request : ChannelRequest)
  | transmitBuffer (bytes buffer : Bytes)
  | normalize (command : Command)
  /-- Makes the changes in order. -/
  | change (changes : List OptionChange)
  | setOptions (options : NormalizeOptions)
  | options
  | inner (request : ChannelRequest)
  | innerWrapped
  deriving Repr

inductive NormalizedAnswer where
  | channel (answer : Answer)
  | buffer (written : Nat) (buffer : Bytes)
  | command (c : Command)
  | options (o : NormalizeOptions)
  deriving DecidableEq, Repr

section

variable {W κ : Type} [ChannelTraits κ] [Host W] [CardChannel W κ]

def NormalizedRequest.perform (request : NormalizedRequest) (n : Normalized κ) (w : W) :
    Outcome (Normalized κ) W NormalizedAnswer :=
  match request with
  | .channel r => (r.perform n w).map .channel
  | .transmitBuffer bytes buffer =>
    let (outcome, buffer) := n.transmitBuffer bytes buffer w
    outcome.map fun written => .buffer written buffer
  | .normalize c => (.ok (.command (n.normalize c)), n, w)
  | .change changes =>
    let o := changes.foldl NormalizeOptions.change n.options
    (.ok (.options o), { n with options := o }, w)
  | .setOptions o => (.ok (.options o), { n with options := o }, w)
  | .options => (.ok (.options n.options), n, w)
  | .inner r => (n.mapInner (r.perform n.inner w)).map .channel
  | .innerWrapped => (.ok (.channel (.flag (ChannelTraits.isWrapped n.inner))), n, w)

end

end CardLink
