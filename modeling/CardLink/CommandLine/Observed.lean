import CardLink.CommandLine.Run
import CardLink.VirtualCard.LocalHost

/-!
# What is seen of a run

A run on a host of its own may wait for a peer that never comes. Then it has no exit code and reports no
failure; what it printed before stays. A wait makes the run fail, and nothing is printed after a failure, so
the printed lines are those from before the wait.
-/

namespace CardLink.CommandLine

structure Observation where
  /-- The exit code of a run that ends. -/
  code : Option Nat
  output : List Line := []
  errors : List String := []
  deriving Repr

def Observation.ofReport (ended : Bool) (r : Report) : Observation :=
  if ended then { code := some r.code, output := r.output, errors := r.errors }
  else { code := none, output := r.output }

/-- Runs the program on the host. -/
def observe {ε : Type} (arguments : List String) (env : Environment)
    (w : VirtualCard.LocalHost ε) : Observation × VirtualCard.LocalHost ε :=
  let (report, w) := run arguments env w
  (.ofReport (!w.network.waitsForever) report, w)

end CardLink.CommandLine
