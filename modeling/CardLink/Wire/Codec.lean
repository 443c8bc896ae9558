import CardLink.Wire.Frame
import CardLink.Wire.Sink
import CardLink.Wire.Source

/-!
# Frame codec

The codec reads and writes frames on one connection. Reading a frame has two halves: `readCommand` reads a
control frame whole but only announces a data frame, whose payload `readData` reads later. Answers are
read whole by `readResponse`. Nothing is tried again: what was taken from the stream before a failure is
lost, and only a failure that took nothing is a timeout.
-/

namespace CardLink

/-- What is found at the start of a frame. -/
inductive Incoming where
  | control (code : ControlCode)
  /-- A data frame with a payload of that length follows. -/
  | data (length : Nat)
  deriving DecidableEq, Repr

structure Codec where
  source : Source
  sink : Sink := {}
  /-- The number of frames written completely. -/
  sent : Nat := 0
  /-- The payload length of the announced data frame that was not read yet. -/
  pending : Option Nat := none
  /-- The longest answer that is accepted. -/
  maxResponse : Nat := 1048576
  deriving DecidableEq, Repr

namespace Codec

/-- Reads the first bytes of a frame. -/
def read (expected : Nat) (c : Codec) : Except TransportError Bytes × Codec :=
  let (outcome, source) := c.source.read expected c.sent
  (outcome, { c with source })

/-- Reads bytes of a frame that is under way. -/
def readRest (expected : Nat) (c : Codec) : Except TransportError Bytes × Codec :=
  let (outcome, source) := c.source.readRest expected c.sent
  (outcome, { c with source })

def readCommand (c : Codec) : Except TransportError Incoming × Codec :=
  match c.read Frame.headerSize with
  | (.error e, c) => (.error e, c)
  | (.ok header, c) =>
    let length := Frame.headerLength header
    if length = 1 then
      match c.readRest 1 with
      | (.error e, c) => (.error e, c)
      | (.ok code, c) => (.ok (.control (.ofByte (code.headD 0))), c)
    else (.ok (.data length), { c with pending := some length })

/-- Reads the announced payload. A failure leaves the announcement in place. -/
def readData (c : Codec) : Except TransportError Bytes × Codec :=
  match c.pending with
  | none => (.error .noPendingFrame, c)
  | some length =>
    match c.readRest length with
    | (.error e, c) => (.error e, c)
    | (.ok payload, c) => (.ok payload, { c with pending := none })

/-- Reads a whole data frame. The header of a frame that is too long is taken from the stream. -/
def readResponse (c : Codec) : Except TransportError Bytes × Codec :=
  match c.read Frame.headerSize with
  | (.error e, c) => (.error e, c)
  | (.ok header, c) =>
    let length := Frame.headerLength header
    if c.maxResponse < length then (.error (.frameTooLarge length c.maxResponse), c)
    else c.readRest length

/-- Writes the bytes of one frame and flushes them. -/
def writeFrame (frame : Bytes) (c : Codec) : Except TransportError Unit × Codec :=
  match c.sink.write frame with
  | (.error e, sink) => (.error (.ofIo e), { c with sink })
  | (.ok (), sink) =>
    match sink.flush with
    | (.error e, sink) => (.error (.ofIo e), { c with sink })
    | (.ok (), sink) => (.ok (), { c with sink, sent := c.sent + 1 })

def writeCommand (code : ControlCode) (c : Codec) : Except TransportError Unit × Codec :=
  c.writeFrame (Frame.control code)

/-- A payload that is too long is refused before anything is written. -/
def writeData (payload : Bytes) (c : Codec) : Except TransportError Unit × Codec :=
  if Frame.maxPayload < payload.length then
    (.error (.frameTooLarge payload.length Frame.maxPayload), c)
  else c.writeFrame (Frame.encode payload)

def describe (c : Codec) : String :=
  let pending := match c.pending with
    | none => "None"
    | some n => "Some(" ++ toString n ++ ")"
  "VpcdProto \x7b pending: " ++ pending ++ ", max_response_len: " ++ toString c.maxResponse ++ ", .. \x7d"

/-- Whether no frame will ever start here before more was written. -/
def isStarved (c : Codec) : Bool := c.source.isStarved c.sent

/-! ## The calls in sequence -/

inductive Request where
  | readCommand
  | readData
  | readResponse
  | writeCommand (code : ControlCode)
  | writeData (payload : Bytes)
  deriving DecidableEq, Repr

inductive Result where
  | done
  | incoming (i : Incoming)
  | bytes (payload : Bytes)
  deriving DecidableEq, Repr

def perform (request : Request) (c : Codec) : Except TransportError Result × Codec :=
  match request with
  | .readCommand => let (r, c) := c.readCommand; (r.map .incoming, c)
  | .readData => let (r, c) := c.readData; (r.map .bytes, c)
  | .readResponse => let (r, c) := c.readResponse; (r.map .bytes, c)
  | .writeCommand code => let (r, c) := c.writeCommand code; (r.map fun _ => .done, c)
  | .writeData payload => let (r, c) := c.writeData payload; (r.map fun _ => .done, c)

/-- The results of the calls in order, and the codec after them. -/
def run (c : Codec) : List Request → List (Except TransportError Result) × Codec
  | [] => ([], c)
  | request :: requests =>
    let (result, c) := c.perform request
    let (results, c) := c.run requests
    (result :: results, c)

/-! ## Reading uses up the source and writing leaves it alone -/

theorem readRest_size_le (expected : Nat) (c : Codec) :
    (c.readRest expected).2.source.size ≤ c.source.size :=
  Source.readRest_size_le expected c.sent c.source

theorem readCommand_size_lt {c c' : Codec} {i : Incoming} (h : c.readCommand = (.ok i, c')) :
    c'.source.size < c.source.size := by
  unfold readCommand at h
  split at h
  · simp at h
  · next header c₁ heq =>
    have hlt : c₁.source.size < c.source.size := by
      simp only [read] at heq
      rcases hr : c.source.read Frame.headerSize c.sent with ⟨outcome, source⟩
      rw [hr] at heq
      cases heq
      exact Source.read_size_lt (by decide) hr
    simp only at h
    split at h
    · have hle := readRest_size_le 1 c₁
      split at h
      · simp at h
      · next code c₂ heq₂ =>
        rw [heq₂] at hle
        cases h
        exact Nat.lt_of_le_of_lt hle hlt
    · cases h
      exact hlt

theorem readCommand_timeout_size_lt {c c' : Codec} (hs : c.isStarved = false)
    (h : c.readCommand = (.error .timeout, c')) : c'.source.size < c.source.size := by
  unfold readCommand at h
  split at h
  · next e c₁ heq =>
    cases h
    simp only [read] at heq
    rcases hr : c.source.read Frame.headerSize c.sent with ⟨outcome, source⟩
    rw [hr] at heq
    cases heq
    exact Source.read_timeout_size_lt (by decide) hs hr
  · next header c₁ heq =>
    simp only at h
    split at h
    · split at h
      · next e c₂ heq₂ =>
        cases h
        exact absurd (congrArg Prod.fst heq₂) (Source.readRest_ne_timeout 1 c₁.sent c₁.source)
      · simp at h
    · simp at h

theorem readData_size_le (c : Codec) : c.readData.2.source.size ≤ c.source.size := by
  unfold readData
  split
  · exact Nat.le_refl _
  · next length _ =>
    have h := readRest_size_le length c
    split <;> next heq => simpa [heq] using h

theorem writeFrame_source (frame : Bytes) (c : Codec) : (c.writeFrame frame).2.source = c.source := by
  unfold writeFrame
  split
  · rfl
  · split <;> rfl

theorem writeData_source (payload : Bytes) (c : Codec) : (c.writeData payload).2.source = c.source := by
  unfold writeData
  split
  · rfl
  · exact writeFrame_source _ c

end Codec
end CardLink
