import CardLink.Error

/-!
# What a byte stream accepts

A sink says how writes go: first a script of single writes, then a steady state in which each write takes
at most one chunk, until no room is left. Writing a whole buffer goes on after a part was taken and after
an interruption; it stops at a refusal, which is a write that takes nothing, or at a failure.
-/

namespace CardLink

inductive WriteEvent where
  | accept (most : Nat)
  | interrupted
  | failure (e : IoError)
  deriving DecidableEq, Repr

/-- What a write meets when there is no room: it takes nothing, or it fails. -/
inductive NoRoom where
  | refuses
  | fails (e : IoError)
  deriving DecidableEq, Repr

structure Sink where
  script : List WriteEvent := []
  /-- The most that one write takes. -/
  chunk : Option Nat := none
  /-- The bytes that can still be taken. -/
  room : Option Nat := none
  noRoom : NoRoom := .refuses
  /-- What flushes fail with. -/
  flushFailure : Option IoError := none
  /-- How many flushes succeed before the first failure. -/
  soundFlushes : Nat := 0
  /-- All bytes taken so far. -/
  accepted : Bytes := []
  flushes : Nat := 0
  deriving DecidableEq, Repr

namespace Sink

/-- The failure of a buffer that cannot be written because a write takes nothing. -/
def refusal : IoError := ⟨.writeZero, "failed to write whole buffer"⟩

def NoRoom.error : NoRoom → IoError
  | .refuses => refusal
  | .fails e => e

/-- Writes a buffer after the script has ended. A missing room is met before an empty chunk is. -/
def writeSteady (bytes : Bytes) (s : Sink) : Except IoError Unit × Sink :=
  if bytes = [] then (.ok (), s)
  else if s.chunk = some 0 ∧ s.room ≠ some 0 then (.error refusal, s)
  else
    match s.room with
    | none => (.ok (), { s with accepted := s.accepted ++ bytes })
    | some room =>
      let s := { s with accepted := s.accepted ++ bytes.take room, room := some (room - bytes.length) }
      if bytes.length ≤ room then (.ok (), s) else (.error (NoRoom.error s.noRoom), s)

/-- Writes a buffer against a script of single writes. -/
def writeScripted (bytes : Bytes) (s : Sink) : List WriteEvent → Except IoError Unit × Sink
  | [] => writeSteady bytes { s with script := [] }
  | event :: script =>
    if bytes = [] then (.ok (), { s with script := event :: script })
    else
      match event with
      | .interrupted => writeScripted bytes s script
      | .failure e => (.error e, { s with script })
      | .accept most =>
        if most = 0 then (.error refusal, { s with script })
        else writeScripted (bytes.drop most) { s with accepted := s.accepted ++ bytes.take most } script

/-- Writes the whole buffer or fails after a part of it. -/
def write (bytes : Bytes) (s : Sink) : Except IoError Unit × Sink := writeScripted bytes s s.script

def flush (s : Sink) : Except IoError Unit × Sink :=
  let s := { s with flushes := s.flushes + 1 }
  match s.flushFailure with
  | none => (.ok (), s)
  | some e => if s.flushes ≤ s.soundFlushes then (.ok (), s) else (.error e, s)

end Sink
end CardLink
