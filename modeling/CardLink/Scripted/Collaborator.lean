import CardLink.Connection.Terminal
import CardLink.Scripted.Applet

/-!
# Scripted collaborators of a manager

A simulator, a source of terminals and a remote connector that fail on request and else hand out scripted
cards. A source and a connector make a new card for each connection, which may record events of its own.
-/

namespace CardLink.Scripted

structure Simulator where
  installFailure : Option ConnectionError := none
  selectOutcome : Except ConnectionError Response := .ok (.statusOnly .success)
  /-- The channel that the simulator becomes. -/
  card : AnyCard

instance : CardSimulator World Simulator AnyCard where
  install aid data s w :=
    (match s.installFailure with | none => .ok () | some e => .error e, s,
      w.record (.install aid data))
  select aid s w := (s.selectOutcome, s, w.record (.select aid))
  intoChannel s w := (s.card, w.record .intoChannel)

/-- A simulated card before its use, or a simulator that becomes some card. -/
abbrev AnySimulator : Type := SimulatedCard ⊕ Simulator

/-- All channels that scripted collaborators hand out. -/
abbrev AnyChannel : Type := SimulatedCard ⊕ AnyCard

/-- Opens a card after the event was recorded, or fails. -/
def openCard {ε : Type} (event : Event) (failure : Option ε) (card : World → AnyCard × World)
    (w : World) : Except ε AnyChannel × World :=
  let w := w.record event
  match failure with
  | some e => (.error e, w)
  | none =>
    let (k, w) := card w
    (.ok (.inr k), w)

def terminalSource (listed : Except ChannelError (List Terminal)) (failure : Option ChannelError)
    (card : World → AnyCard × World) : TerminalSource World AnyChannel :=
  { terminals := fun w => (listed, w.record .listTerminals)
    connect := fun name => openCard (.connectTerminal name) failure card }

def remoteConnector (failure : Option ConnectionError) (card : World → AnyCard × World) :
    RemoteConnector World AnyChannel :=
  { connect := fun settings => openCard (.connectRemote settings) failure card }

end CardLink.Scripted
