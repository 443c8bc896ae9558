import CardLink.CommandLine.Arguments
import CardLink.CommandLine.Report
import CardLink.Connection.Manager
import CardLink.VirtualCard.Service

/-!
# Running an invocation

Every action but listing readers connects first, and everything that was connected is released in the end.
Sending reads all commands before the first is transmitted, and stops at the first failure.
-/

namespace CardLink.CommandLine

/-- The settings of the deployment that the program looks at. -/
structure Environment where
  fixNe : Option String := none
  defaultNe : Option String := none
  deriving DecidableEq, Repr

def MainOptions.settings (o : MainOptions) : Settings :=
  let timeout := o.timeout.map (· * 1000)
  { kind := o.kind, index := o.readerIndex, readerName := o.reader, aid := o.aid
    remoteAddress := o.remote, port := o.remotePort, doSelect := !o.noSelect
    connectTimeout := timeout, readTimeout := timeout }

def MainOptions.normalization (o : MainOptions) (env : Environment) : NormalizeOptions :=
  { fixLc := !o.noFixLc
    fixNe := if o.fixNe then some true else none
    defaultNe := o.defaultNe
    debug := o.debug
    defaults := .ofSettings env.fixNe env.defaultNe }

/-- The failure as it stands. -/
def Failure.ofConnection (e : ConnectionError) : Failure := ⟨e.message, e.sources⟩

/-- The failure below a note about what was being done. -/
def Failure.during (note : String) (e : ConnectionError) : Failure :=
  ⟨note, e.message :: e.sources⟩

section

variable {W κ ς : Type} [ChannelTraits κ] [CardChannel W κ] [VirtualCard.Network W] [Host W]

/-- The lines printed so far, how it went, and what is left. -/
abbrev Printed (W κ ς : Type) : Type := List Line × Except Failure Unit × Manager W κ ς × W

/-- Prints the ATR and the protocol. -/
def printAtr (m : Manager W κ ς) (w : W) : Printed W κ ς :=
  match m.atr w with
  | (.error e, m, w) => ([], .error (.during "Failed to read the ATR" e), m, w)
  | (.ok a, m, w) =>
    match m.protocol w with
    | (.error e, m, w) => ([.atr a], .error (.ofConnection e), m, w)
    | (.ok p, m, w) => ([.atr a, .protocol p], .ok (), m, w)

/-- Transmits the commands in order until one fails. -/
def sendAll (m : Manager W κ ς) (w : W) : List Command → Printed W κ ς
  | [] => ([], .ok (), m, w)
  | c :: rest =>
    match m.transmit c w with
    | (.error e, m, w) => ([.sent c], .error (.ofConnection e), m, w)
    | (.ok r, m, w) =>
      let (lines, result, last) := sendAll m w rest
      (.sent c :: .answered r (m.lastDuration.getD 0) :: lines, result, last)

/-- Transmits the whole list in each of the rounds left, after `done` rounds. -/
def sendRounds (commands : List Command) (headed : Bool) (done : Nat) (m : Manager W κ ς) (w : W) :
    Nat → Printed W κ ς
  | 0 => ([], .ok (), m, w)
  | left + 1 =>
    let head := if headed then [Line.round (done + 1)] else []
    match sendAll m w commands with
    | (lines, .error e, m, w) => (head ++ lines, .error e, m, w)
    | (lines, .ok (), m, w) =>
      let (more, result, last) := sendRounds commands headed (done + 1) m w left
      (head ++ lines ++ more, result, last)

/-- The commands that the bytes encode; the first that encode none are a failure. -/
def parseCommands : List Bytes → Except Failure (List Command)
  | [] => .ok []
  | bytes :: rest =>
    match Command.parse bytes with
    | .error e => .error ⟨"Invalid APDU " ++ Hex.encode bytes, [e.message]⟩
    | .ok c => (parseCommands rest).map (c :: ·)

def send (apdus : List Bytes) (repeats : Nat) (m : Manager W κ ς) (w : W) : Printed W κ ς :=
  match parseCommands apdus with
  | .error e => ([], .error e, m, w)
  | .ok commands => sendRounds commands (decide (1 < repeats)) 0 m w repeats

def ServeOptions.config (o : ServeOptions) (timeout : Option Nat) : VirtualCard.Config :=
  let base : VirtualCard.Config :=
    if o.reversed then .listening o.port else .dialling o.host o.port
  { base with connectTimeout := timeout }

/-- Takes the channel and serves it to one reader. -/
def serve [VirtualCard.CancelToken W] (o : ServeOptions) (timeout : Option Nat)
    (m : Manager W κ ς) (w : W) : Printed W κ ς :=
  let (channel, m) := m.takeChannel
  match channel with
  | none => ([], .error ⟨"The card manager has no channel to serve", []⟩, m, w)
  | some channel =>
    let offer : VirtualCard.Offer (Normalized (Backend κ)) :=
      { channel, config := o.config timeout }
    let (result, offer, w) := offer.run w
    let result := result.mapError fun e => Failure.during "Virtual card session failed" (.card e)
    ([], result, m, CardChannel.release offer.channel w)

end

section

variable {W : Type} [VirtualCard.Network W] [Host W]

/-- The program's own manager has no collaborators. -/
abbrev ProgramManager (W : Type) : Type := Manager W Empty Empty

/-- Connects and prints the answer to the selection. -/
def connect (o : MainOptions) (env : Environment) (w : W) : Printed W Empty Empty :=
  let m : ProgramManager W := { options := o.normalization env }
  match m.connect o.settings w with
  | (.error e, m, w) =>
    ([], .error (.during ("Failed to connect to " ++ o.kind.name ++ " card") e), m, w)
  | (.ok false, m, w) =>
    ([], .error ⟨"No card found for card type " ++ o.kind.name, []⟩, m, w)
  | (.ok true, m, w) =>
    (match m.selectResponse with | none => [] | some r => [.selected r], .ok (), m, w)

/-- Does the work of a connected program and releases what it holds. -/
def connected (o : MainOptions) (env : Environment)
    (work : ProgramManager W → W → Printed W Empty Empty) (w : W) :
    List Line × Except Failure Unit × W :=
  match connect o env w with
  | (lines, .error e, m, w) => (lines, .error e, m.releaseHeld w)
  | (lines, .ok (), m, w) =>
    let (more, result, m, w) := work m w
    (lines ++ more, result, m.releaseHeld w)

def Invocation.perform [VirtualCard.CancelToken W] (i : Invocation) (env : Environment) (w : W) :
    List Line × Except Failure Unit × W :=
  match i.action with
  | .readers =>
    ([], .error ⟨"Reader listing needs rcard built with the `pcsc` feature", []⟩, w)
  | .atr => connected i.options env printAtr w
  | .send apdus repeats => connected i.options env (send apdus repeats) w
  | .serve options =>
    connected i.options env (serve options i.options.settings.connectTimeout) w

/-- Runs the program. Arguments that make no sense end it with code two, a failure with code one. The
texts of help and of usage errors are not part of the report. -/
def run [VirtualCard.CancelToken W] (arguments : List String) (env : Environment) (w : W) :
    Report × W :=
  match parse arguments with
  | .error .usage => ({ code := 2 }, w)
  | .error .help => ({ code := 0 }, w)
  | .error .version => ({ code := 0, output := [.version] }, w)
  | .ok invocation =>
    match invocation.perform env w with
    | (output, .ok (), w) => ({ code := 0, output }, w)
    | (output, .error failure, w) => ({ code := 1, output, errors := failure.lines }, w)

end

end CardLink.CommandLine
