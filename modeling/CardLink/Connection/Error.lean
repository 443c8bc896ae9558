import CardLink.Connection.Kind
import CardLink.Error

/-!
# Failures of a connection

What can go wrong between a caller and a card beyond the failures of the channel itself.
-/

namespace CardLink

inductive ConfigFault where
  | unknownKind
  | noTerminalSource
  | noLegacySource
  | noRemoteConnector
  | noSimulator
  /-- The local simulator has no identifier to install under. -/
  | noSimulatorAid
  /-- There is no identifier to select. -/
  | noAid
  | other (reason : String)
  deriving DecidableEq, Repr

def ConfigFault.reason : ConfigFault → String
  | .unknownKind => "unknown card type"
  | .noTerminalSource => "physical card types require a terminal source or the `pcsc` feature"
  | .noLegacySource => "legacy simulator requires a terminal source"
  | .noRemoteConnector => "remote card type requires a remote connector"
  | .noSimulator => "local simulator requires a simulator"
  | .noSimulatorAid => "local simulator requires an application identifier"
  | .noAid => "no application identifier configured"
  | .other reason => reason

inductive SimulatorFault where
  /-- An identifier has one to sixteen bytes. -/
  | aidLength (length : Nat)
  | noApplet
  | other (reason : String)
  deriving DecidableEq, Repr

def SimulatorFault.reason : SimulatorFault → String
  | .aidLength n => "invalid AID length " ++ toString n
  | .noApplet => "no applet to install"
  | .other reason => reason

inductive ConnectionError where
  | config (fault : ConfigFault)
  | unsupportedKind (kind : CardKind)
  /-- No terminal with that index holds a card. -/
  | noTerminal (index : Nat)
  | readerNotFound (wanted : String)
  | notConnected
  | card (cause : ChannelError)
  | simulator (fault : SimulatorFault)
  deriving DecidableEq, Repr

namespace ConnectionError

def message : ConnectionError → String
  | .config fault => "Configuration error: " ++ fault.reason
  | .unsupportedKind kind => "Unsupported card type: " ++ kind.name
  | .noTerminal index => "No card terminal found at index " ++ toString index
  | .readerNotFound wanted => "Reader could not be found: " ++ wanted
  | .notConnected => "Not connected to a card"
  | .card cause => cause.message
  | .simulator fault => "Simulator error: " ++ fault.reason

/-- Whether trying again is pointless unless the configuration changes. -/
def isConfig : ConnectionError → Bool
  | .config _ | .unsupportedKind _ => true
  | .card cause => cause.isConfig
  | _ => false

/-- The texts of the causes below, outermost first. A channel error stands for itself. -/
def sources : ConnectionError → List String
  | .card cause => cause.sources
  | _ => []

end ConnectionError
end CardLink
