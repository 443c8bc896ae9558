import CardLink.Error

/-!
# Card channels

A channel is any state machine that exchanges APDUs. Its calls take the channel and the world around it
(whatever the channel acts on) and give an outcome with both afterwards, also when the call fails. Calls
are made one at a time; nothing here models sharing between threads.

A channel type states its exchange, its ATR and how it closes. The rest has defaults: no protocol is
known, exclusive use is granted, a disconnect is a close, and letting go of the channel does nothing.
-/

namespace CardLink

/-- The bytes a card sends when it is powered. -/
structure Atr where
  bytes : Bytes
  deriving DecidableEq, Repr

def Atr.text (atr : Atr) : String := Hex.encode atr.bytes

def Atr.describe (atr : Atr) : String := "Atr(" ++ atr.text ++ ")"

inductive Protocol where
  | t0 | t1 | contactless
  deriving DecidableEq, Repr

def Protocol.name : Protocol → String
  | .t0 => "T=0"
  | .t1 => "T=1"
  | .contactless => "T=CL"

/-- What can be said of a channel without calling it. -/
class ChannelTraits (κ : Type) where
  number : κ → UInt8 := fun _ => 0
  /-- Whether the channel normalizes commands already. -/
  isWrapped : κ → Bool := fun _ => false

/-- A call's outcome, the channel afterwards and the world afterwards. -/
abbrev Outcome (κ W α : Type) := Except ChannelError α × κ × W

class CardChannel (W κ : Type) where
  transmit : Command → κ → W → Outcome κ W Response
  atr : κ → W → Outcome κ W Atr
  close : κ → W → Outcome κ W Unit
  protocol : κ → W → Outcome κ W (Option Protocol) := fun k w => (.ok none, k, w)
  beginExclusive : κ → W → Outcome κ W Unit := fun k w => (.ok (), k, w)
  endExclusive : κ → W → Outcome κ W Unit := fun k w => (.ok (), k, w)
  /-- The flag asks for a reset of the card. -/
  disconnect : Bool → κ → W → Outcome κ W Unit := fun _ => close
  /-- The world after the owner has let go of the channel. -/
  release : κ → W → W := fun _ w => w

/-- Requests to the card behind a channel. The basic channel and a logical channel are the channel
itself, so these requests are the channel's own calls. -/
inductive CardRequest where
  | atr
  | protocol
  | beginExclusive
  | endExclusive
  | disconnect (reset : Bool)
  | basicNumber
  | basicTransmit (command : Command)
  | logicalTransmit (command : Command)
  deriving Repr

inductive ChannelRequest where
  | transmit (command : Command)
  /-- The exchange below `transmit`, which adds nothing to it. -/
  | exchange (command : Command)
  | atr
  | protocol
  | number
  | beginExclusive
  | endExclusive
  | disconnect (reset : Bool)
  | close
  | isWrapped
  | card (request : CardRequest)
  deriving Repr

inductive Answer where
  | done
  | response (r : Response)
  | atr (a : Atr)
  | protocol (p : Option Protocol)
  | number (n : UInt8)
  | flag (b : Bool)
  deriving DecidableEq, Repr

/-- Changes what a successful call gives and nothing else. -/
def Outcome.map {κ W α β : Type} (f : α → β) (o : Outcome κ W α) : Outcome κ W β :=
  (o.1.map f, o.2)

section

variable {W κ : Type} [ChannelTraits κ] [CardChannel W κ]

def CardRequest.perform (request : CardRequest) (k : κ) (w : W) : Outcome κ W Answer :=
  match request with
  | .atr => (CardChannel.atr k w).map .atr
  | .protocol => (CardChannel.protocol k w).map .protocol
  | .beginExclusive => (CardChannel.beginExclusive k w).map fun _ => .done
  | .endExclusive => (CardChannel.endExclusive k w).map fun _ => .done
  | .disconnect reset => (CardChannel.disconnect reset k w).map fun _ => .done
  | .basicNumber => (.ok (.number (ChannelTraits.number k)), k, w)
  | .basicTransmit c => (CardChannel.transmit c k w).map .response
  | .logicalTransmit c => (CardChannel.transmit c k w).map .response

def ChannelRequest.perform (request : ChannelRequest) (k : κ) (w : W) : Outcome κ W Answer :=
  match request with
  | .transmit c => (CardChannel.transmit c k w).map .response
  | .exchange c => (CardChannel.transmit c k w).map .response
  | .atr => (CardChannel.atr k w).map .atr
  | .protocol => (CardChannel.protocol k w).map .protocol
  | .number => (.ok (.number (ChannelTraits.number k)), k, w)
  | .beginExclusive => (CardChannel.beginExclusive k w).map fun _ => .done
  | .endExclusive => (CardChannel.endExclusive k w).map fun _ => .done
  | .disconnect reset => (CardChannel.disconnect reset k w).map fun _ => .done
  | .close => (CardChannel.close k w).map fun _ => .done
  | .isWrapped => (.ok (.flag (ChannelTraits.isWrapped k)), k, w)
  | .card request => request.perform k w

end

/-! ## Either of two channels -/

instance {κ₁ κ₂ : Type} [ChannelTraits κ₁] [ChannelTraits κ₂] : ChannelTraits (κ₁ ⊕ κ₂) where
  number
    | .inl k => ChannelTraits.number k
    | .inr k => ChannelTraits.number k
  isWrapped
    | .inl k => ChannelTraits.isWrapped k
    | .inr k => ChannelTraits.isWrapped k

/-- Puts the channel afterwards back in its place. -/
def Outcome.lift {κ κ' W α : Type} (f : κ → κ') (o : Outcome κ W α) : Outcome κ' W α :=
  (o.1, f o.2.1, o.2.2)

instance {W κ₁ κ₂ : Type} [CardChannel W κ₁] [CardChannel W κ₂] : CardChannel W (κ₁ ⊕ κ₂) where
  transmit c
    | .inl k, w => (CardChannel.transmit c k w).lift .inl
    | .inr k, w => (CardChannel.transmit c k w).lift .inr
  atr
    | .inl k, w => (CardChannel.atr k w).lift .inl
    | .inr k, w => (CardChannel.atr k w).lift .inr
  close
    | .inl k, w => (CardChannel.close k w).lift .inl
    | .inr k, w => (CardChannel.close k w).lift .inr
  protocol
    | .inl k, w => (CardChannel.protocol k w).lift .inl
    | .inr k, w => (CardChannel.protocol k w).lift .inr
  beginExclusive
    | .inl k, w => (CardChannel.beginExclusive k w).lift .inl
    | .inr k, w => (CardChannel.beginExclusive k w).lift .inr
  endExclusive
    | .inl k, w => (CardChannel.endExclusive k w).lift .inl
    | .inr k, w => (CardChannel.endExclusive k w).lift .inr
  disconnect reset
    | .inl k, w => (CardChannel.disconnect reset k w).lift .inl
    | .inr k, w => (CardChannel.disconnect reset k w).lift .inr
  release
    | .inl k, w => CardChannel.release k w
    | .inr k, w => CardChannel.release k w

/-! ## No channel at all -/

instance : ChannelTraits Empty where

instance {W : Type} : CardChannel W Empty where
  transmit _ k _ := k.elim
  atr k _ := k.elim
  close k _ := k.elim

end CardLink
