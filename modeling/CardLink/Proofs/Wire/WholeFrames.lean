import CardLink.Proofs.Wire.RoundTrip
import CardLink.Proofs.Wire.Timeouts
import CardLink.Proofs.Wire.Whole

/-!
# No frame is torn

A sink takes the frames of the writes that succeed, whole and in the order of the calls. Only a write that the
stream fails can leave a part of its frame behind, and that part is the front of it. A payload that is refused for
its length leaves nothing behind, and the calls around it are as if it had not been offered.
-/

namespace CardLink

namespace Sink

theorem part_of_nothing (bytes accepted : Bytes) : ∃ part, part <+: bytes ∧ accepted = accepted ++ part :=
  ⟨[], List.nil_prefix, (List.append_nil accepted).symm⟩

theorem writeSteady_part (bytes : Bytes) (s : Sink) :
    ∃ part, part <+: bytes ∧ (s.writeSteady bytes).2.accepted = s.accepted ++ part := by
  have hnothing := part_of_nothing bytes s.accepted
  unfold writeSteady
  split
  · exact hnothing
  · split
    · exact hnothing
    · split
      · exact ⟨bytes, List.prefix_refl bytes, rfl⟩
      · next room _ =>
        refine ⟨bytes.take room, List.take_prefix room bytes, ?_⟩
        simp only
        split
        · rfl
        · rfl

theorem writeScripted_part (script : List WriteEvent) (bytes : Bytes) (s : Sink) :
    ∃ part, part <+: bytes ∧ (writeScripted bytes s script).2.accepted = s.accepted ++ part := by
  induction script generalizing bytes s with
  | nil => exact writeSteady_part bytes { s with script := [] }
  | cons event script ih =>
    have hnothing := part_of_nothing bytes s.accepted
    by_cases hnil : bytes = []
    · simpa only [writeScripted, hnil, if_pos] using hnothing
    · simp only [writeScripted, hnil, if_false]
      cases event with
      | interrupted => exact ih bytes s
      | failure e => exact hnothing
      | accept most =>
        by_cases hmost : most = 0
        · simpa only [hmost, if_pos] using hnothing
        · simp only [hmost, if_false]
          obtain ⟨part, ⟨left, hleft⟩, htaken⟩ :=
            ih (bytes.drop most) { s with accepted := s.accepted ++ bytes.take most }
          refine ⟨bytes.take most ++ part, ⟨left, ?_⟩, ?_⟩
          · rw [List.append_assoc, hleft, List.take_append_drop]
          · rw [htaken, List.append_assoc]

/-- Whatever becomes of a write, the sink has taken the front of the buffer. -/
theorem write_part (bytes : Bytes) (s : Sink) :
    ∃ part, part <+: bytes ∧ (s.write bytes).2.accepted = s.accepted ++ part :=
  writeScripted_part s.script bytes s

end Sink

namespace Codec

/-- The frame that a writing call puts on the stream. -/
def Request.frame : Request → Option Bytes
  | .writeCommand code => some (Frame.control code)
  | .writeData payload => some (Frame.encode payload)
  | _ => none

/-- What a call has put on the stream if it succeeded. -/
def written (e : Event) : Bytes := if e.2.toBool then e.1.frame.getD [] else []

/-- The stream failed while the call was writing that frame. -/
def Breaks (frame : Bytes) (e : Event) : Prop := e.1.frame = some frame ∧ ∃ io, e.2 = .error (.ofIo io)

/-- No call met a failure of the stream while it was writing. -/
def Unbroken (h : List Event) : Prop := ∀ e ∈ h, ∀ frame, ¬ Breaks frame e

/-- The part is nothing, or the front of the frame that the call was writing when the stream failed. -/
def Leaves (part : Bytes) (e : Event) : Prop := part = [] ∨ ∃ frame, Breaks frame e ∧ part <+: frame

/-- The bytes are the frames of the calls that succeeded, in order, and after them what the last call left of a frame
that it broke off. -/
def Whole (h : List Event) (bytes : Bytes) : Prop :=
  ∃ part, bytes = h.flatMap written ++ part ∧ (part = [] ∨ ∃ e, h.getLast? = some e ∧ Leaves part e)

/-! ## One write -/

/-- A write succeeds exactly when its frame was taken whole and then flushed. -/
theorem writeFrame_ok_iff (frame : Bytes) (c : Codec) :
    (c.writeFrame frame).1 = .ok () ↔
      (c.sink.write frame).1 = .ok () ∧ (c.sink.write frame).2.flush.1 = .ok () := by
  unfold writeFrame
  rcases c.sink.write frame with ⟨e | done, sink⟩
  · simp
  · rcases hflush : sink.flush with ⟨e | done, sink'⟩
    · simp [hflush]
    · simp [hflush]

theorem writeFrame_part (frame : Bytes) (c : Codec) :
    ∃ part, part <+: frame ∧ (c.writeFrame frame).2.sink.accepted = c.sink.accepted ++ part ∧
      ((c.writeFrame frame).1 = .ok () ∧ part = frame ∨ ∃ io, (c.writeFrame frame).1 = .error (.ofIo io)) := by
  obtain ⟨part, hpart, htaken⟩ := c.sink.write_part frame
  rcases hwrite : c.writeFrame frame with ⟨e | done, c'⟩
  · refine ⟨part, hpart, ?_⟩
    unfold writeFrame at hwrite
    rcases hw : c.sink.write frame with ⟨io | done, sink⟩
    · rw [hw] at hwrite htaken
      cases hwrite
      exact ⟨htaken, Or.inr ⟨io, rfl⟩⟩
    · rw [hw] at hwrite htaken
      have hflushed := sink.flush_accepted
      rcases hf : sink.flush with ⟨io | done, sink'⟩
      · simp only [hf] at hwrite hflushed
        cases hwrite
        exact ⟨hflushed.trans htaken, Or.inr ⟨io, rfl⟩⟩
      · simp [hf] at hwrite
  · exact ⟨frame, List.prefix_refl frame, writeFrame_ok hwrite, Or.inl ⟨rfl, rfl⟩⟩

theorem writeData_refused_iff (payload : Bytes) (c : Codec) (length max : Nat) :
    (c.writeData payload).1 = .error (.frameTooLarge length max) ↔
      Frame.maxPayload < payload.length ∧ length = payload.length ∧ max = Frame.maxPayload := by
  by_cases hlong : Frame.maxPayload < payload.length
  · rw [writeData_tooLarge c hlong]
    simp only [Except.error.injEq, TransportError.frameTooLarge.injEq, hlong, true_and]
    exact and_congr eq_comm eq_comm
  · constructor
    · intro hrefused
      rw [writeData, if_neg hlong] at hrefused
      obtain ⟨part, -, -, ⟨hok, -⟩ | ⟨io, hio⟩⟩ := writeFrame_part (Frame.encode payload) c
      · rw [hok] at hrefused
        cases hrefused
      · rw [hio] at hrefused
        by_cases hdeadline : io.kind.isDeadline
        · simp [TransportError.ofIo, hdeadline] at hrefused
        · simp [TransportError.ofIo, hdeadline] at hrefused
    · intro h
      exact absurd h.1 hlong

theorem writeData_ok_iff (payload : Bytes) (c : Codec) :
    (c.writeData payload).1 = .ok () ↔
      payload.length ≤ Frame.maxPayload ∧ (c.sink.write (Frame.encode payload)).1 = .ok () ∧
        (c.sink.write (Frame.encode payload)).2.flush.1 = .ok () := by
  by_cases hlong : Frame.maxPayload < payload.length
  · rw [writeData_tooLarge c hlong]
    constructor
    · intro h
      cases h
    · intro h
      omega
  · rw [writeData, if_neg hlong, writeFrame_ok_iff]
    have hfits : payload.length ≤ Frame.maxPayload := by omega
    simp [hfits]

/-! ## Calls one after the other -/

theorem readCommand_sink (c : Codec) : c.readCommand.2.sink = c.sink := by
  unfold readCommand read readRest
  rcases c.source.read Frame.headerSize c.sent with ⟨e | header, source⟩
  · rfl
  · by_cases hone : Frame.headerLength header = 1
    · simp only [hone, if_pos]
      rcases source.readRest 1 c.sent with ⟨e | code, source'⟩
      · rfl
      · rfl
    · simp only [hone, if_false]

theorem readData_sink (c : Codec) : c.readData.2.sink = c.sink := by
  rcases hp : c.pending with _ | n
  · rw [readData_none hp]
  · rw [readData_some hp]
    rcases c.source.readRest n c.sent with ⟨e | payload, source⟩
    · rfl
    · rfl

theorem perform_sink {request : Request} (h : request.frame = none) (c : Codec) :
    (c.perform request).2.sink = c.sink := by
  cases request with
  | readCommand => exact readCommand_sink c
  | readData => exact readData_sink c
  | readResponse =>
    obtain ⟨source, hr⟩ := readResponse_source c
    simp only [perform, hr]
  | writeCommand code => cases h
  | writeData payload => cases h

theorem writing_written {request : Request} {frame : Bytes} {c : Codec} (hframe : request.frame = some frame)
    (hperform : c.perform request = ((c.writeFrame frame).1.map fun _ => .done, (c.writeFrame frame).2)) :
    ∃ part, Leaves part (request, (c.perform request).1) ∧
      (c.perform request).2.sink.accepted =
        c.sink.accepted ++ written (request, (c.perform request).1) ++ part := by
  obtain ⟨part, hpart, htaken, ⟨hok, rfl⟩ | ⟨io, hio⟩⟩ := writeFrame_part frame c
  · refine ⟨[], Or.inl rfl, ?_⟩
    simp [hperform, htaken, hok, written, hframe, Except.map, Except.toBool]
  · refine ⟨part, Or.inr ⟨frame, ⟨hframe, io, ?_⟩, hpart⟩, ?_⟩
    · rw [hperform, hio]
      rfl
    · simp [hperform, htaken, hio, written, Except.map, Except.toBool]

theorem silent_written {request : Request} {c : Codec} (hsink : (c.perform request).2.sink = c.sink)
    (hnothing : written (request, (c.perform request).1) = []) :
    ∃ part, Leaves part (request, (c.perform request).1) ∧
      (c.perform request).2.sink.accepted =
        c.sink.accepted ++ written (request, (c.perform request).1) ++ part :=
  ⟨[], Or.inl rfl, by rw [hsink, hnothing, List.append_nil, List.append_nil]⟩

/-- A call puts its frame on the stream if it succeeds; if the stream fails it, the front of its frame. -/
theorem perform_written (request : Request) (c : Codec) :
    ∃ part, Leaves part (request, (c.perform request).1) ∧
      (c.perform request).2.sink.accepted =
        c.sink.accepted ++ written (request, (c.perform request).1) ++ part := by
  cases request with
  | readCommand => exact silent_written (perform_sink rfl c) (by simp [written, Request.frame])
  | readData => exact silent_written (perform_sink rfl c) (by simp [written, Request.frame])
  | readResponse => exact silent_written (perform_sink rfl c) (by simp [written, Request.frame])
  | writeCommand code => exact writing_written rfl rfl
  | writeData payload =>
    by_cases hlong : Frame.maxPayload < payload.length
    · apply silent_written
      · simp only [perform, writeData_tooLarge c hlong]
      · simp only [perform, writeData_tooLarge c hlong]
        rfl
    · apply writing_written rfl
      simp only [perform, writeData, hlong, if_false]

/-- Calls of which at most the last was failed by the stream have put whole frames on it, and after them at most
the front of that last frame. -/
theorem run_written {c : Codec} {requests : List Request} (h : Unbroken (c.history requests).dropLast) :
    ∃ bytes, (c.run requests).2.sink.accepted = c.sink.accepted ++ bytes ∧
      Whole (c.history requests) bytes := by
  induction requests using List.reverseRecOn with
  | nil => exact ⟨[], by simp [run], [], rfl, Or.inl rfl⟩
  | append_singleton requests request ih =>
    rw [history_concat, List.dropLast_concat] at h
    obtain ⟨bytes, htaken, part', hbytes, hpart'⟩ := ih fun e he => h e (List.dropLast_subset _ he)
    -- the calls before the last have met no failure, so they leave no part of a frame
    have hwhole : part' = [] := by
      rcases hpart' with hnil | ⟨e, hlast, hnil | ⟨frame, hbreaks, -⟩⟩
      · exact hnil
      · exact hnil
      · exact absurd hbreaks (h e (List.mem_of_getLast? hlast) frame)
    obtain ⟨part, hleaves, hstep⟩ := perform_written request (c.run requests).2
    refine ⟨bytes ++ written (request, ((c.run requests).2.perform request).1) ++ part, ?_, part, ?_, ?_⟩
    · rw [run_concat, hstep, htaken]
      simp only [List.append_assoc]
    · rw [history_concat, hbytes, hwhole]
      simp
    · exact Or.inr ⟨_, by rw [history_concat, List.getLast?_concat], hleaves⟩

/-- A refused payload leaves the codec as it was, so the calls after it have the results they would have had. -/
theorem run_refused (c : Codec) (before after : List Request) {payload : Bytes}
    (hlong : Frame.maxPayload < payload.length) :
    (c.run (before ++ .writeData payload :: after)).2 = (c.run (before ++ after)).2 ∧
    c.history (before ++ .writeData payload :: after) =
      c.history before ++
        (.writeData payload, .error (.frameTooLarge payload.length Frame.maxPayload)) ::
          (c.run before).2.history after ∧
    c.history (before ++ after) = c.history before ++ (c.run before).2.history after := by
  have hperform : ∀ c' : Codec, c'.perform (.writeData payload) =
      (.error (.frameTooLarge payload.length Frame.maxPayload), c') := by
    intro c'
    simp only [perform, writeData_tooLarge c' hlong]
    rfl
  refine ⟨?_, ?_, history_append before after c⟩
  · rw [run_append, run_append]
    change (((c.run before).2.perform (.writeData payload)).2.run after).2 = _
    rw [hperform]
  · rw [history_append, history_cons, hperform]

/-- What is true of all calls on a codec, whatever its sink does. -/
structure WritesWhole (c : Codec) : Prop where
  /-- The sink has taken whole frames, up to the first call that the stream fails. -/
  whole : ∀ requests, Unbroken (c.history requests).dropLast →
    ∃ bytes, (c.run requests).2.sink.accepted = c.sink.accepted ++ bytes ∧ Whole (c.history requests) bytes
  succeeds : ∀ payload, (c.writeData payload).1 = .ok () ↔
    payload.length ≤ Frame.maxPayload ∧ (c.sink.write (Frame.encode payload)).1 = .ok () ∧
      (c.sink.write (Frame.encode payload)).2.flush.1 = .ok ()
  refused : ∀ payload length max, (c.writeData payload).1 = .error (.frameTooLarge length max) ↔
    Frame.maxPayload < payload.length ∧ length = payload.length ∧ max = Frame.maxPayload
  /-- A refused payload makes no difference to the other calls. -/
  undisturbed : ∀ before payload after, Frame.maxPayload < payload.length →
    (c.run (before ++ .writeData payload :: after)).2 = (c.run (before ++ after)).2 ∧
    c.history (before ++ .writeData payload :: after) =
      c.history before ++
        (.writeData payload, .error (.frameTooLarge payload.length Frame.maxPayload)) ::
          (c.run before).2.history after ∧
    c.history (before ++ after) = c.history before ++ (c.run before).2.history after

theorem writesWhole (c : Codec) : c.WritesWhole := by
  constructor
  · intro requests
    exact run_written
  · intro payload
    exact writeData_ok_iff payload c
  · intro payload
    exact writeData_refused_iff payload c
  · intro before payload after
    exact run_refused c before after

end Codec
end CardLink
