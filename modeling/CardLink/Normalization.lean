import CardLink.Apdu.Command
import CardLink.Text.Blank
import CardLink.Text.Number

/-!
# Normalization of commands

Two fix-ups that readers and cards may need. A command without data gets an explicit zero Lc and loses its
Le; a command with data gets its Le forced. Which one can apply depends on the data alone, so never both
do. Unset options fall back to deployment-wide defaults.
-/

namespace CardLink

structure NormalizeDefaults where
  fixNe : Bool := false
  defaultNe : Nat := 255
  deriving DecidableEq, Repr

structure NormalizeOptions where
  /-- Send commands without data with an explicit zero Lc. -/
  fixLc : Bool := true
  /-- Force Le on commands with data. -/
  fixNe : Option Bool := none
  /-- The Le to force. -/
  defaultNe : Option Nat := none
  /-- Log every exchange. -/
  debug : Bool := false
  defaults : NormalizeDefaults := {}
  deriving DecidableEq, Repr

/-- Reads the defaults from the settings of a deployment, each possibly unset. A setting that cannot be
read, or an Le outside 1 to 256, leaves the default in place. -/
def NormalizeDefaults.ofSettings (fixNe defaultNe : Option String) : NormalizeDefaults :=
  let base : NormalizeDefaults := {}
  { fixNe := match fixNe with
      | none => base.fixNe
      | some value =>
        Text.equalsIgnoringCase (Text.trim value) "true" || Text.trim value == "1"
    defaultNe := match defaultNe.bind fun value => Text.unsignedBelow? Text.limit16 (Text.trim value) with
      | none => base.defaultNe
      | some ne => if 1 ≤ ne ∧ ne ≤ Command.maxExpectedLength then ne else base.defaultNe }

namespace NormalizeOptions

def effectiveFixNe (o : NormalizeOptions) : Bool := o.fixNe.getD o.defaults.fixNe

def effectiveDefaultNe (o : NormalizeOptions) : Nat := o.defaultNe.getD o.defaults.defaultNe

/-- Applies the fix-up that fits the command. Data that is empty counts as no data. -/
def normalize (o : NormalizeOptions) (c : Command) : Command :=
  if c.hasData then
    if o.effectiveFixNe then { c with le := some o.effectiveDefaultNe } else c
  else if o.fixLc then { c with data := some [], le := none }
  else c

end NormalizeOptions
end CardLink
