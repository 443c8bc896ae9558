import CardLink.Connection.Kind
import CardLink.Hex
import CardLink.VirtualCard.Config

/-!
# Settings of one connection

Read once when a connection is made; changing them later does not reach a live channel.
-/

namespace CardLink

structure Settings where
  kind : CardKind := .physical
  /-- Which terminal to take, counted from zero. -/
  index : Nat := 0
  /-- Part of the name of the reader to take, in any case. -/
  readerName : Option String := none
  /-- The application to select. -/
  aid : Option Bytes := none
  /-- What the local simulator gets when its applet is installed. -/
  installData : Option Bytes := none
  /-- The virtual card's address; blank or absent means to listen. -/
  remoteAddress : Option String := none
  port : Nat := VirtualCard.defaultPort
  /-- Tear down the session before this one first. -/
  disconnectPrevious : Bool := false
  /-- The kind of the card behind a remote end. -/
  remoteKind : CardKind := .physical
  /-- Select the application after connecting. -/
  doSelect : Bool := true
  /-- How often a caller should repeat its work. -/
  repeats : Nat := 1
  connectTimeout : Option Nat := none
  readTimeout : Option Nat := none
  deriving DecidableEq, Repr

/-- The part of the settings that a virtual-card socket takes. -/
def Settings.virtualCard (s : Settings) : VirtualCard.Config :=
  { remoteAddress := s.remoteAddress, port := s.port, connectTimeout := s.connectTimeout
    readTimeout := s.readTimeout }

end CardLink
