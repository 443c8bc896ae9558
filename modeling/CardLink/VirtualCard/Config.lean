import CardLink.Text.Blank

/-!
# Settings of a virtual-card socket

One host address decides the role: with an address this side dials it, without one this side listens for
a single peer. Times are in milliseconds; a time that is absent means no deadline.
-/

namespace CardLink.VirtualCard

def defaultPort : Nat := 35963

structure Config where
  /-- The peer's address; blank text counts as none. -/
  remoteAddress : Option String := none
  port : Nat := defaultPort
  /-- The deadline for accepting or dialling. -/
  connectTimeout : Option Nat := none
  /-- The deadline of every read. -/
  readTimeout : Option Nat := none
  /-- The pause between connecting and the first frame. -/
  settleDelay : Nat := 0
  /-- The longest answer that is accepted. -/
  maxResponse : Nat := 1048576
  deriving DecidableEq, Repr

namespace Config

def listening (port : Nat) : Config := { port }

def dialling (host : String) (port : Nat) : Config := { remoteAddress := some host, port }

/-- The trimmed address to dial. -/
def host (c : Config) : Option String :=
  (c.remoteAddress.map Text.trim).filter (· ≠ "")

def isListener (c : Config) : Bool := c.host.isNone

end Config
end CardLink.VirtualCard
