import CardLink.Channel
import CardLink.Connection.Error
import CardLink.Connection.Settings
import CardLink.Text.Lowercase

/-!
# Terminals

A terminal is a slot that may hold a card. By name, the first terminal whose name contains the wanted
text is taken, with or without a card. By index, the terminal must hold one.
-/

namespace CardLink

structure Terminal where
  name : String
  cardPresent : Bool
  deriving DecidableEq, Repr

/-- What lists terminals and connects to the cards in them. -/
structure TerminalSource (W κ : Type) where
  terminals : W → Except ChannelError (List Terminal) × W
  connect : String → W → Except ChannelError κ × W

/-- What opens channels to cards behind a service of the caller's. -/
structure RemoteConnector (W κ : Type) where
  connect : Settings → W → Except ConnectionError κ × W

namespace Terminal

/-- Whether the name contains the wanted text, in any case. -/
def matchesName (wanted : String) (t : Terminal) : Bool :=
  Text.occursIn (Text.lowercase wanted).toList (Text.lowercase t.name).toList

/-- The terminal that the settings ask for. The reader's name counts only if it may decide. -/
def choose (settings : Settings) (byName : Bool) (terminals : List Terminal) :
    Except ConnectionError Terminal :=
  match settings.readerName.filter fun _ => byName with
  | some wanted =>
    match terminals.find? (matchesName wanted) with
    | some t => .ok t
    | none => .error (.readerNotFound wanted)
  | none =>
    match terminals[settings.index]?.filter (·.cardPresent) with
    | some t => .ok t
    | none => .error (.noTerminal settings.index)

/-- The terminal of a simulator that lists terminals; none at all if no terminal holds a card. -/
def chooseSimulated (settings : Settings) (terminals : List Terminal) :
    Except ConnectionError (Option Terminal) :=
  if terminals.any (·.cardPresent) then
    match terminals[settings.index]? with
    | some t => .ok (some t)
    | none => .error (.noTerminal settings.index)
  else .ok none

end Terminal
end CardLink
