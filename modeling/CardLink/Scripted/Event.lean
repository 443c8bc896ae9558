import CardLink.Connection.Settings
import CardLink.VirtualCard.LocalHost

/-!
# Recorded calls

Scripted collaborators answer as they are told and record in the host every call that reaches them, also
one that then fails. What was recorded, in order, shows which calls a client made.
-/

namespace CardLink.Scripted

/-- The calls that reach an applet. -/
inductive AppletCall where
  | install (data : Bytes)
  | select
  | deselect
  | process (command : Command)
  deriving DecidableEq, Repr

inductive Event where
  | transmit (command : Command)
  | atr
  | protocol
  | beginExclusive
  | endExclusive
  | disconnect (reset : Bool)
  | close
  | applet (name : String) (call : AppletCall)
  /-- A simulator installs an application with install data. -/
  | install (aid data : Bytes)
  | select (aid : Bytes)
  | intoChannel
  | listTerminals
  | connectTerminal (name : String)
  | connectRemote (settings : Settings)
  deriving DecidableEq, Repr

def AppletCall.text : AppletCall → String
  | .install data => "install:" ++ Hex.encode data
  | .select => "select"
  | .deselect => "deselect"
  | .process command => "process:" ++ command.text

/-- One line per event. -/
def Event.text : Event → String
  | .transmit command => "transmit:" ++ command.text
  | .atr => "atr"
  | .protocol => "protocol"
  | .beginExclusive => "begin"
  | .endExclusive => "end"
  | .disconnect reset => "disconnect:" ++ toString reset
  | .close => "close"
  | .applet name call => name ++ "." ++ call.text
  | .install aid data => "sim.install:" ++ Hex.encode aid ++ ":" ++ Hex.encode data
  | .select aid => "sim.select:" ++ Hex.encode aid
  | .intoChannel => "sim.into_channel"
  | .listTerminals => "terminals"
  | .connectTerminal name => "terminal.connect:" ++ name
  | .connectRemote settings =>
    "remote.connect:" ++ settings.remoteAddress.getD "-" ++ ":" ++ toString settings.port ++ ":"
      ++ settings.remoteKind.name

/-- The host of scripted collaborators. -/
abbrev World : Type := VirtualCard.LocalHost Event

end CardLink.Scripted
