import CardLink.CommandLine.Observed

/-!
# The program

Reads the arguments and the environment, runs the invocation on a host without a route, and prints. A run
that waits for ever keeps the process.
-/

def main (arguments : List String) : IO UInt32 := do
  let fixNe ← IO.getEnv "RCARD_FIX_NE"
  let defaultNe ← IO.getEnv "RCARD_DEFAULT_NE"
  let host : CardLink.VirtualCard.LocalHost Unit := {}
  let (seen, _) := CardLink.CommandLine.observe arguments { fixNe, defaultNe } host
  for line in seen.output do
    IO.println (line.text false toString)
  for line in seen.errors do
    IO.eprintln line
  if seen.code.isNone then
    repeat IO.sleep 60000
  return UInt32.ofNat (seen.code.getD 0)
