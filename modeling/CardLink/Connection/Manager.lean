import CardLink.Connection.Simulator
import CardLink.Connection.Terminal
import CardLink.Normalization.Channel
import CardLink.VirtualCard.Session

/-!
# Connection manager

The manager turns settings into a ready channel: it opens the configured kind of card, normalizes the
channel and may select an application. It holds at most one channel. A failed exchange takes it out of the
connected state, and only a new connection brings it back; nothing is tried again. A failed connection
leaves the channel of the session before it in place, without being connected to it.

Channels are owned: a channel that the manager replaces, drops or refuses is released. What a connected
state allows is checked by `transmit` alone.
-/

namespace CardLink

inductive ConnectionState where
  /-- Nothing was attempted yet. -/
  | idle
  | connecting
  | connected
  /-- The last connection or exchange failed. -/
  | failed
  /-- The channel was torn down or handed over. -/
  | disconnected
  deriving DecidableEq, Repr

def ConnectionState.name : ConnectionState → String
  | .idle => "Idle"
  | .connecting => "Connecting"
  | .connected => "Connected"
  | .failed => "Failed"
  | .disconnected => "Disconnected"

/-- The channels a manager can hold: its own virtual-card sessions, and those of its collaborators. -/
abbrev Backend (κ : Type) : Type := VirtualCard.Session ⊕ κ

structure Manager (W κ ς : Type) where
  state : ConnectionState := .idle
  channel : Option (Normalized (Backend κ)) := none
  /-- The application to select. Settings fill it in only while there is none. -/
  aid : Option Bytes := none
  options : NormalizeOptions := {}
  doSelect : Bool := true
  /-- The answer to the selection that was part of connecting. -/
  selectResponse : Option Response := none
  lastKind : Option CardKind := none
  terminals : Option (TerminalSource W κ) := none
  legacyTerminals : Option (TerminalSource W κ) := none
  /-- Used up by the next connection to the local simulator. -/
  simulator : Option ς := none
  remote : Option (RemoteConnector W κ) := none

/-- A call's outcome, the manager afterwards and the world afterwards. -/
abbrev Managed (W κ ς α : Type) : Type := Except ConnectionError α × Manager W κ ς × W

namespace Manager

variable {W κ ς : Type}

/-- A manager without a channel; its flag turns the debug log on. -/
def new (debug : Bool) (aid : Option Bytes) : Manager W κ ς := { aid, options := { debug } }

def isConnected (m : Manager W κ ς) : Bool := m.state == .connected

/-- The last command handed to the held channel. -/
def lastCommand (m : Manager W κ ς) : Option Command := m.channel.bind (·.lastCommand)

/-- How long the last exchange of the held channel took. -/
def lastDuration (m : Manager W κ ς) : Option Nat := m.channel.map (·.lastDuration)

/-- Changes an option, and gives the held channel all options of the manager. -/
def changeOption (d : OptionChange) (m : Manager W κ ς) : Manager W κ ς :=
  let options := m.options.change d
  { m with options, channel := m.channel.map fun n => { n with options } }

/-- Hands the channel over to the caller. -/
def takeChannel (m : Manager W κ ς) : Option (Normalized (Backend κ)) × Manager W κ ς :=
  (m.channel, { m with state := .disconnected, channel := none })

variable [ChannelTraits κ] [CardChannel W κ] [VirtualCard.Network W] [Host W]

/-- The world after the manager lets go of the channel it holds. -/
def releaseHeld (m : Manager W κ ς) (w : W) : W :=
  match m.channel with
  | none => w
  | some n => CardChannel.release n w

/-- Normalizes the channel and holds it instead of the one before. A channel that normalizes already is
refused and let go. -/
def adopt (channel : Backend κ) (m : Manager W κ ς) (w : W) : Managed W κ ς Unit :=
  match Normalized.wrap m.options channel with
  | .error e => (.error (.card e), m, CardChannel.release channel w)
  | .ok n => (.ok (), { m with channel := some n }, m.releaseHeld w)

/-- Exchanges one command over the held channel, whatever the state. -/
def send (command : Command) (m : Manager W κ ς) (w : W) : Managed W κ ς Response :=
  match m.channel with
  | none => (.error .notConnected, m, w)
  | some n =>
    match CardChannel.transmit command n w with
    | (.ok response, n, w) => (.ok response, { m with channel := some n }, w)
    | (.error e, n, w) => (.error (.card e), { m with channel := some n, state := .failed }, w)

/-- Selects the configured application, whatever the state. -/
def selectApplet (m : Manager W κ ς) (w : W) : Managed W κ ς Response :=
  match m.aid with
  | none => (.error (.config .noAid), m, w)
  | some aid => m.send (.selectAid aid) w

/-- Exchanges one command if the manager is connected. -/
def transmit (command : Command) (m : Manager W κ ς) (w : W) : Managed W κ ς Response :=
  if m.state = .connected then m.send command w else (.error .notConnected, m, w)

/-- Selects the application, if one is configured, and keeps the answer. -/
def selectIfConfigured (m : Manager W κ ς) (w : W) : Managed W κ ς Unit :=
  match m.aid with
  | none => (.ok (), m, w)
  | some _ =>
    match m.selectApplet w with
    | (.error e, m, w) => (.error e, m, w)
    | (.ok response, m, w) => (.ok (), { m with selectResponse := some response }, w)

/-- Tears the channel down. The channel is gone afterwards, also if that failed. -/
def disconnect (reset : Bool) (m : Manager W κ ς) (w : W) : Managed W κ ς Unit :=
  match m.channel with
  | none => (.ok (), { m with state := .disconnected }, w)
  | some n =>
    let (result, n, w) := CardChannel.disconnect reset n w
    (result.mapError .card, { m with state := .disconnected, channel := none },
      CardChannel.release n w)

/-! ## Opening the configured kind of card -/

omit [ChannelTraits κ] [CardChannel W κ] [VirtualCard.Network W] [Host W] in
/-- A channel to the card in a terminal of the source. -/
def connectTerminal (source : Option (TerminalSource W κ)) (settings : Settings) (byName : Bool)
    (w : W) : Except ConnectionError κ × W :=
  match source with
  | none => (.error (.config .noTerminalSource), w)
  | some source =>
    match source.terminals w with
    | (.error e, w) => (.error (.card e), w)
    | (.ok terminals, w) =>
      match Terminal.choose settings byName terminals with
      | .error e => (.error e, w)
      | .ok t =>
        let (channel, w) := source.connect t.name w
        (channel.mapError .card, w)

omit [ChannelTraits κ] [CardChannel W κ] [VirtualCard.Network W] [Host W] in
/-- A channel to the card in a terminal of a simulator; none if no terminal holds a card. -/
def connectLegacy (source : Option (TerminalSource W κ)) (settings : Settings) (w : W) :
    Except ConnectionError (Option κ) × W :=
  match source with
  | none => (.error (.config .noLegacySource), w)
  | some source =>
    match source.terminals w with
    | (.error e, w) => (.error (.card e), w)
    | (.ok terminals, w) =>
      match Terminal.chooseSimulated settings terminals with
      | .error e => (.error e, w)
      | .ok none => (.ok none, w)
      | .ok (some t) =>
        let (channel, w) := source.connect t.name w
        ((channel.map some).mapError .card, w)

omit [ChannelTraits κ] [CardChannel W κ] [VirtualCard.Network W] [Host W] in
def connectRemote (connector : Option (RemoteConnector W κ)) (settings : Settings) (w : W) :
    Except ConnectionError κ × W :=
  match connector with
  | none => (.error (.config .noRemoteConnector), w)
  | some connector => connector.connect settings w

/-- Holds a channel that was opened and selects the application through it. -/
def adoptAndSelect (channel : Backend κ) (doSelect : Bool) (m : Manager W κ ς) (w : W) :
    Managed W κ ς Bool :=
  match m.adopt channel w with
  | (.error e, m, w) => (.error e, m, w)
  | (.ok (), m, w) =>
    if doSelect then
      match m.selectIfConfigured w with
      | (.error e, m, w) => (.error e, m, w)
      | (.ok (), m, w) => (.ok true, m, w)
    else (.ok true, m, w)

variable [CardSimulator W ς κ]

/-- Installs and selects through the simulator itself, before it becomes the channel. -/
def openSimulator (settings : Settings) (doSelect : Bool) (m : Manager W κ ς) (w : W) :
    Managed W κ ς Bool :=
  match m.aid, m.simulator with
  | none, _ => (.error (.config .noSimulatorAid), m, w)
  | some _, none => (.error (.config .noSimulator), m, w)
  | some aid, some simulator =>
    let m := { m with simulator := none }
    match CardSimulator.install aid (settings.installData.getD []) simulator w with
    | (.error e, _, w) => (.error e, m, w)
    | (.ok (), simulator, w) =>
      if doSelect then
        match CardSimulator.select aid simulator w with
        | (.error e, _, w) => (.error e, m, w)
        | (.ok response, simulator, w) =>
          let (channel, w) := CardSimulator.intoChannel simulator w
          { m with selectResponse := some response }.adoptAndSelect (.inr channel) false w
      else
        let (channel, w) := CardSimulator.intoChannel simulator w
        m.adoptAndSelect (.inr channel) false w

/-- Opens the configured kind of card. Says whether there was a card to connect to. -/
def openCard (settings : Settings) (m : Manager W κ ς) (w : W) : Managed W κ ς Bool :=
  let doSelect := m.doSelect && settings.doSelect
  let opened (outcome : Except ConnectionError κ × W) : Managed W κ ς Bool :=
    match outcome with
    | (.error e, w) => (.error e, m, w)
    | (.ok channel, w) => m.adoptAndSelect (.inr channel) doSelect w
  match settings.kind with
  | .physical => opened (connectTerminal m.terminals settings true w)
  | .physicalDirect => opened (connectTerminal m.terminals settings false w)
  | .legacySimulator =>
    match connectLegacy m.legacyTerminals settings w with
    | (.error e, w) => (.error e, m, w)
    | (.ok none, w) => (.ok false, { m with channel := none }, m.releaseHeld w)
    | (.ok (some channel), w) => m.adoptAndSelect (.inr channel) doSelect w
  | .localSimulator => m.openSimulator settings doSelect w
  | .remoteSimulator => (.error (.unsupportedKind .remoteSimulator), m, w)
  | .remote => opened (connectRemote m.remote settings w)
  | .virtualCard => m.adoptAndSelect (.inl { config := settings.virtualCard }) doSelect w

/-- The manager and the world when opening starts: the session before it is torn down if the settings say
so, whatever comes of that. -/
def prepare (settings : Settings) (m : Manager W κ ς) (w : W) : Manager W κ ς × W :=
  let m := { m with aid := m.aid.or settings.aid }
  let (m, w) :=
    if settings.disconnectPrevious && m.channel.isSome then (m.disconnect true w).2 else (m, w)
  ({ m with state := .connecting, selectResponse := none }, w)

/-- Connects to the card that the settings describe. Says whether there was one; only a simulator that
lists terminals may have none without failing. -/
def connect (settings : Settings) (m : Manager W κ ς) (w : W) : Managed W κ ς Bool :=
  let (m, w) := m.prepare settings w
  match m.openCard settings w with
  | (.error e, m, w) => (.error e, { m with state := .failed }, w)
  | (.ok found, m, w) =>
    (.ok found,
      { m with lastKind := some settings.kind, state := if found then .connected else .failed }, w)

/-! ## Channels and simulators from the caller -/

omit [CardSimulator W ς κ] in
/-- Holds a channel of the caller's. -/
def connectChannel (channel : κ) (m : Manager W κ ς) (w : W) : Managed W κ ς Unit :=
  match m.adopt (.inr channel) w with
  | (.error e, m, w) => (.error e, m, w)
  | (.ok (), m, w) => (.ok (), { m with state := .connected }, w)

omit [CardSimulator W ς κ] in
/-- Refuses a channel that a manager handed over, since it is normalized, and lets it go. -/
def returnChannel (n : Normalized (Backend κ)) (m : Manager W κ ς) (w : W) : Managed W κ ς Unit :=
  (.error (.card .doubleWrap), m, CardChannel.release n w)

/-- Holds a simulator whose applets are installed and selects the application through the channel. -/
def connectSimulator (simulator : ς) (m : Manager W κ ς) (w : W) : Managed W κ ς Unit :=
  let (channel, w) := CardSimulator.intoChannel simulator w
  match m.adopt (.inr channel) w with
  | (.error e, m, w) => (.error e, m, w)
  | (.ok (), m, w) =>
    let m := { m with lastKind := some .localSimulator, state := .connected }
    if m.doSelect then m.selectIfConfigured w else (.ok (), m, w)

omit [CardSimulator W ς κ]

/-! ## Questions to the card, whatever the state -/

/-- Gives a call to the held channel. -/
def withChannel {α : Type}
    (call : Normalized (Backend κ) → W → Outcome (Normalized (Backend κ)) W α)
    (m : Manager W κ ς) (w : W) : Managed W κ ς α :=
  match m.channel with
  | none => (.error .notConnected, m, w)
  | some n =>
    let (result, n, w) := call n w
    (result.mapError .card, { m with channel := some n }, w)

def atr (m : Manager W κ ς) (w : W) : Managed W κ ς Atr := m.withChannel CardChannel.atr w

/-- Reads the ATR anew, which powers a virtual card again. -/
def reset (m : Manager W κ ς) (w : W) : Managed W κ ς Atr := m.atr w

def protocol (m : Manager W κ ς) (w : W) : Managed W κ ς (Option Protocol) :=
  m.withChannel CardChannel.protocol w

end Manager

/-! ## Calls in sequence -/

inductive ManagerRequest (W κ ς : Type) where
  | connect (settings : Settings)
  | connectChannel (channel : κ)
  | connectSimulator (simulator : ς)
  | withTerminals (source : TerminalSource W κ)
  | withLegacyTerminals (source : TerminalSource W κ)
  | withSimulator (simulator : ς)
  | withRemote (connector : RemoteConnector W κ)
  | withOptions (options : NormalizeOptions)
  | transmit (command : Command)
  | selectApplet
  | disconnect (reset : Bool)
  | takeChannel
  | returnChannel (channel : Normalized (Backend κ))
  | onChannel (request : NormalizedRequest)
  | atr
  | reset
  | protocol
  | setAid (aid : Option Bytes)
  | setDoSelect (doSelect : Bool)
  /-- Makes the changes in order. -/
  | change (changes : List OptionChange)

inductive ManagerAnswer (κ : Type) where
  /-- What a channel answers too; connecting gives a flag that says whether there was a card. -/
  | plain (answer : Answer)
  | channel (answer : NormalizedAnswer)
  | taken (channel : Option (Normalized (Backend κ)))
  | options (o : NormalizeOptions)

section

variable {W κ ς : Type}

/-- Changes what a successful call gives and nothing else. -/
def Managed.map {α β : Type} (f : α → β) (o : Managed W κ ς α) : Managed W κ ς β :=
  (o.1.map f, o.2)

variable [ChannelTraits κ] [CardChannel W κ] [VirtualCard.Network W] [Host W] [CardSimulator W ς κ]

def ManagerRequest.perform (request : ManagerRequest W κ ς) (m : Manager W κ ς) (w : W) :
    Managed W κ ς (ManagerAnswer κ) :=
  match request with
  | .connect settings => (m.connect settings w).map fun found => .plain (.flag found)
  | .connectChannel channel => (m.connectChannel channel w).map fun _ => .plain .done
  | .connectSimulator simulator => (m.connectSimulator simulator w).map fun _ => .plain .done
  | .withTerminals source => (.ok (.plain .done), { m with terminals := some source }, w)
  | .withLegacyTerminals source => (.ok (.plain .done), { m with legacyTerminals := some source }, w)
  | .withSimulator simulator => (.ok (.plain .done), { m with simulator := some simulator }, w)
  | .withRemote connector => (.ok (.plain .done), { m with remote := some connector }, w)
  | .withOptions options => (.ok (.options options), { m with options }, w)
  | .transmit command => (m.transmit command w).map fun r => .plain (.response r)
  | .selectApplet => (m.selectApplet w).map fun r => .plain (.response r)
  | .disconnect r => (m.disconnect r w).map fun _ => .plain .done
  | .takeChannel =>
    let (channel, m) := m.takeChannel
    (.ok (.taken channel), m, w)
  | .returnChannel channel => (m.returnChannel channel w).map fun _ => .plain .done
  | .onChannel request => (m.withChannel request.perform w).map .channel
  | .atr => (m.atr w).map fun a => .plain (.atr a)
  | .reset => (m.reset w).map fun a => .plain (.atr a)
  | .protocol => (m.protocol w).map fun p => .plain (.protocol p)
  | .setAid aid => (.ok (.plain .done), { m with aid }, w)
  | .setDoSelect doSelect => (.ok (.plain .done), { m with doSelect }, w)
  | .change changes =>
    let m := changes.foldl (fun m d => m.changeOption d) m
    (.ok (.options m.options), m, w)

/-- The manager and the world after the calls in order. -/
def Manager.run (m : Manager W κ ς) (w : W) : List (ManagerRequest W κ ς) → Manager W κ ς × W
  | [] => (m, w)
  | request :: requests =>
    let (_, m, w) := request.perform m w
    m.run w requests

end

end CardLink
