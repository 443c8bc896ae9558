import CardLink.Scripted.Event

/-!
# Scripted cards

A card with a list of replies. Each exchange uses up the next reply and the last one repeats; without any
reply the card is not connected. All other calls answer the same way each time.
-/

namespace CardLink.Scripted

inductive Reply where
  /-- The bytes of a response, which may be too few. -/
  | raw (bytes : Bytes)
  /-- Sends the command back as data of a successful response. -/
  | echo
  | failure (e : ChannelError)
  deriving DecidableEq, Repr

def Reply.response (command : Command) : Reply → Except ChannelError Response
  | .raw bytes => (Response.parse bytes).mapError .response
  | .echo => .ok (.success command.encode)
  | .failure e => .error e

structure Card where
  replies : List Reply := []
  atr : Except ChannelError Atr := .ok ⟨[0x3B, 0x00]⟩
  protocol : Except ChannelError (Option Protocol) := .ok none
  number : UInt8 := 0
  beginFailure : Option ChannelError := none
  endFailure : Option ChannelError := none
  disconnectFailure : Option ChannelError := none
  closeFailure : Option ChannelError := none
  /-- The exchange, counted from one, during which the cancel token is set. -/
  cancelAt : Option Nat := none
  exchanges : Nat := 0

namespace Card

def result : Option ChannelError → Except ChannelError Unit
  | none => .ok ()
  | some e => .error e

/-- The replies left after one exchange. -/
def repliesLeft : List Reply → List Reply
  | _ :: next :: rest => next :: rest
  | replies => replies

def transmit (command : Command) (k : Card) (w : World) : Outcome Card World Response :=
  let w := w.record (.transmit command)
  let exchanges := k.exchanges + 1
  let w := if k.cancelAt = some exchanges then { w with cancelled := true } else w
  let response := match k.replies with
    | [] => .error .notConnected
    | reply :: _ => reply.response command
  (response, { k with replies := repliesLeft k.replies, exchanges }, w)

end Card

instance : ChannelTraits Card where
  number k := k.number

instance : CardChannel World Card where
  transmit := Card.transmit
  atr k w := (k.atr, k, w.record .atr)
  close k w := (Card.result k.closeFailure, k, w.record .close)
  protocol k w := (k.protocol, k, w.record .protocol)
  beginExclusive k w := (Card.result k.beginFailure, k, w.record .beginExclusive)
  endExclusive k w := (Card.result k.endFailure, k, w.record .endExclusive)
  disconnect reset k w := (Card.result k.disconnectFailure, k, w.record (.disconnect reset))

/-- A scripted card that states only what every channel has to state. -/
structure PlainCard where
  card : Card

instance : ChannelTraits PlainCard where

instance : CardChannel World PlainCard where
  transmit command k w := (CardChannel.transmit command k.card w).lift PlainCard.mk
  atr k w := (CardChannel.atr k.card w).lift PlainCard.mk
  close k w := (CardChannel.close k.card w).lift PlainCard.mk

end CardLink.Scripted
