import CardLink.Connection.Simulator
import CardLink.Scripted.Card

/-!
# Scripted applets

A fixed applet answers every command with the same data. A counting applet has a name under which it
records its calls, a counter of one byte, and three instructions: count, send the data back, send the
whole command back.
-/

namespace CardLink.Scripted

structure CountingApplet where
  name : String := ""
  counter : UInt8 := 0
  /-- The answer to being selected. -/
  selectResponse : Response := .statusOnly .success
  installFailure : Option ConnectionError := none
  deriving DecidableEq, Repr

inductive Applet where
  | fixed (data : Bytes)
  | counting (a : CountingApplet)
  deriving DecidableEq, Repr

namespace CountingApplet

def process (command : Command) (a : CountingApplet) : Response × CountingApplet :=
  match command.ins.toNat with
  | 1 => (.success [a.counter + 1], { a with counter := a.counter + 1 })
  | 2 => (.success command.payload, a)
  | 3 => (.success command.encode, a)
  | _ => (.statusOnly .invalidInstruction, a)

end CountingApplet

instance : CardLink.Applet World Applet where
  install data
    | .fixed answer, w => (.ok (), .fixed answer, w)
    | .counting a, w =>
      (match a.installFailure with | none => .ok () | some e => .error e, .counting a,
        w.record (.applet a.name (.install data)))
  select
    | .fixed answer, w => (.statusOnly .success, .fixed answer, w)
    | .counting a, w => (a.selectResponse, .counting a, w.record (.applet a.name .select))
  deselect
    | .fixed answer, w => (.fixed answer, w)
    | .counting a, w => (.counting a, w.record (.applet a.name .deselect))
  process command
    | .fixed answer, w => (.success answer, .fixed answer, w)
    | .counting a, w =>
      let (response, a') := a.process command
      (response, .counting a', w.record (.applet a.name (.process command)))

/-- A simulated card with scripted applets. -/
abbrev SimulatedCard : Type := AppletHost Applet

/-- The scripted cards, themselves or behind normalization. -/
abbrev BareCard : Type := Card ⊕ PlainCard ⊕ SimulatedCard

abbrev AnyCard : Type := Normalized BareCard ⊕ BareCard

end CardLink.Scripted
