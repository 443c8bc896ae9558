import CardLink.Text.Blank

/-!
# Kinds of cards

Where a card lives decides how it is reached. Names are read without the white space around them and
without regard to the case of ASCII letters.
-/

namespace CardLink

inductive CardKind where
  /-- A card in a reader chosen by name or index. -/
  | physical
  /-- A card in a reader chosen by index alone. -/
  | physicalDirect
  /-- A network simulator that lists terminals. -/
  | legacySimulator
  /-- A simulator in this process. -/
  | localSimulator
  /-- Known by name, but not available. -/
  | remoteSimulator
  /-- A card behind a connector of the caller's. -/
  | remote
  /-- A card at the other end of a virtual-card socket. -/
  | virtualCard
  deriving DecidableEq, Repr

namespace CardKind

def all : List CardKind :=
  [.physical, .physicalDirect, .legacySimulator, .localSimulator, .remoteSimulator, .remote,
    .virtualCard]

def name : CardKind → String
  | .physical => "physical"
  | .physicalDirect => "physical-direct"
  | .legacySimulator => "legacy-sim"
  | .localSimulator => "local-sim"
  | .remoteSimulator => "remote-sim"
  | .remote => "remote"
  | .virtualCard => "vsmartcard"

def ofName? (text : String) : Option CardKind :=
  all.find? fun kind => Text.equalsIgnoringCase kind.name (Text.trim text)

end CardKind
end CardLink
