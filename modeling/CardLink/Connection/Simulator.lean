import CardLink.Channel
import CardLink.Connection.Error

/-!
# Simulated cards

A card simulator installs an application, selects it and becomes a channel. The applet host is one: it
holds applets under their identifiers, at most one of them selected, and routes every command that does not
select an application to the selected applet.
-/

namespace CardLink

class CardSimulator (W ς : Type) (κ : outParam Type) where
  /-- Installs the application under the identifier, with install data. -/
  install : Bytes → Bytes → ς → W → Except ConnectionError Unit × ς × W
  select : Bytes → ς → W → Except ConnectionError Response × ς × W
  intoChannel : ς → W → κ × W

instance {W : Type} : CardSimulator W Empty Empty where
  install _ _ s _ := s.elim
  select _ s _ := s.elim
  intoChannel s _ := s.elim

instance {W ς₁ ς₂ κ₁ κ₂ : Type} [CardSimulator W ς₁ κ₁] [CardSimulator W ς₂ κ₂] :
    CardSimulator W (ς₁ ⊕ ς₂) (κ₁ ⊕ κ₂) where
  install aid data
    | .inl s, w => let (result, s, w) := CardSimulator.install aid data s w; (result, .inl s, w)
    | .inr s, w => let (result, s, w) := CardSimulator.install aid data s w; (result, .inr s, w)
  select aid
    | .inl s, w => let (result, s, w) := CardSimulator.select aid s w; (result, .inl s, w)
    | .inr s, w => let (result, s, w) := CardSimulator.select aid s w; (result, .inr s, w)
  intoChannel
    | .inl s, w => let (k, w) := CardSimulator.intoChannel s w; (.inl k, w)
    | .inr s, w => let (k, w) := CardSimulator.intoChannel s w; (.inr k, w)

/-- An application on a simulated card. -/
class Applet (W α : Type) where
  /-- Called once, before the applet is on the card. -/
  install : Bytes → α → W → Except ConnectionError Unit × α × W := fun _ a w => (.ok (), a, w)
  select : α → W → Response × α × W := fun a w => (.statusOnly .success, a, w)
  deselect : α → W → α × W := fun a w => (a, w)
  process : Command → α → W → Response × α × W

structure AppletHost (α : Type) where
  atr : Atr := ⟨[0x3B, 0xFA, 0x18, 0x00, 0x00, 0x81, 0x31, 0xFE, 0x45, 0x4A, 0x43]⟩
  applets : List (Bytes × α) := []
  /-- The applet that the next plain install puts on the card. -/
  pending : Option α := none
  /-- The place of the selected applet. -/
  selected : Option Nat := none
  closed : Bool := false
  deriving Repr

/-- Whether the command selects an application by its identifier, on any logical channel. -/
def Command.isSelectByAid (c : Command) : Bool :=
  c.cla.toNat < 0x80 && c.ins == 0xA4 && c.p1 == 0x04

namespace AppletHost

variable {W α : Type}

def position (aid : Bytes) (h : AppletHost α) : Option Nat :=
  h.applets.findIdx? fun installed => installed.1 == aid

/-- The identifier of the selected applet. -/
def selectedAid (h : AppletHost α) : Option Bytes :=
  h.selected.bind fun index => h.applets[index]?.map Prod.fst

def putApplet (index : Nat) (a : α) (h : AppletHost α) : AppletHost α :=
  { h with applets := h.applets.modify index fun installed => (installed.1, a) }

variable [Applet W α]

/-- Deselects the selected applet, if there is one. -/
def deselect (h : AppletHost α) (w : W) : AppletHost α × W :=
  match h.selected with
  | none => (h, w)
  | some index =>
    let h := { h with selected := none }
    match h.applets[index]? with
    | none => (h, w)
    | some (_, a) =>
      let (a, w) := Applet.deselect a w
      (h.putApplet index a, w)

/-- Selects the applet with the identifier. An unknown one changes nothing. -/
def selectAid (aid : Bytes) (h : AppletHost α) (w : W) : Response × AppletHost α × W :=
  match h.position aid with
  | none => (.statusOnly .fileNotFound, h, w)
  | some index =>
    let (h, w) := h.deselect w
    let h := { h with selected := some index }
    match h.applets[index]? with
    | none => (.statusOnly .fileNotFound, h, w)
    | some (_, a) =>
      let (response, a, w) := Applet.select a w
      (response, h.putApplet index a, w)

def dispatch (command : Command) (h : AppletHost α) (w : W) : Response × AppletHost α × W :=
  if command.isSelectByAid then h.selectAid command.payload w
  else
    match h.selected.bind fun index => h.applets[index]?.map fun installed => (index, installed.2) with
    | none => (.statusOnly .conditionsNotSatisfied, h, w)
    | some (index, a) =>
      let (response, a, w) := Applet.process command a w
      (response, h.putApplet index a, w)

/-- Installs an applet. One that was installed under the identifier is replaced in its place, and is no
longer selected. A failure leaves the host as it was. -/
def installApplet (aid : Bytes) (a : α) (data : Bytes) (h : AppletHost α) (w : W) :
    Except ConnectionError Unit × AppletHost α × W :=
  if aid.length = 0 ∨ 16 < aid.length then (.error (.simulator (.aidLength aid.length)), h, w)
  else
    match Applet.install data a w with
    | (.error e, _, w) => (.error e, h, w)
    | (.ok (), a, w) =>
      match h.position aid with
      | none => (.ok (), { h with applets := h.applets ++ [(aid, a)] }, w)
      | some index =>
        let selected := if h.selected = some index then none else h.selected
        (.ok (), { h with selected }.putApplet index a, w)

/-- Installs the pending applet, which is used up even when that fails. -/
def install (aid data : Bytes) (h : AppletHost α) (w : W) :
    Except ConnectionError Unit × AppletHost α × W :=
  match h.pending with
  | none => (.error (.simulator .noApplet), h, w)
  | some a => { h with pending := none }.installApplet aid a data w

/-- Closes the host; a reset deselects first. -/
def disconnect (reset : Bool) (h : AppletHost α) (w : W) : AppletHost α × W :=
  let (h, w) := if reset then h.deselect w else (h, w)
  ({ h with closed := true }, w)

end AppletHost

instance {α : Type} : ChannelTraits (AppletHost α) where

instance {W α : Type} [Applet W α] : CardChannel W (AppletHost α) where
  transmit command h w :=
    if h.closed then (.error .closed, h, w)
    else
      let (response, h, w) := h.dispatch command w
      (.ok response, h, w)
  atr h w := (if h.closed then .error .closed else .ok h.atr, h, w)
  protocol h w := (.ok (some .t1), h, w)
  disconnect reset h w := (.ok (), h.disconnect reset w)
  close h w := (.ok (), h.disconnect false w)

instance {W α : Type} [Applet W α] : CardSimulator W (AppletHost α) (AppletHost α) where
  install := AppletHost.install
  select aid h w :=
    let (response, h, w) := h.selectAid aid w
    (.ok response, h, w)
  intoChannel h w := (h, w)

end CardLink
