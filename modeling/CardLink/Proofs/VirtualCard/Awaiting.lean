import CardLink.Proofs.Wire.Pauses
import CardLink.VirtualCard.Service

/-!
# Waiting for a frame

A service waits for a whole frame before it does anything. On any stream a frame that it gets is the next one
there, and an idle wait has taken nothing. A stream that flows gives its frames one after the other; one that
stops inside a frame loses it.
-/

namespace CardLink

namespace VirtualCard

/-- What comes of waiting for a frame. -/
inductive Awaited where
  | frame (payload : Bytes)
  /-- A deadline came before the first byte of a frame. -/
  | idle
  | ended (ended : ServiceEnd)

end VirtualCard

open VirtualCard

namespace Codec

def awaitFrame (c : Codec) : Awaited × Codec :=
  match c.readCommand with
  | (.ok (.control code), c) => (.frame [code.toByte], c)
  | (.ok (.data _), c) =>
    match c.readData with
    | (.ok payload, c) => (.frame payload, c)
    | (.error e, c) => (.ended (.failed (.transport e)), c)
  | (.error .timeout, c) => (.idle, c)
  | (.error e, c) =>
    (.ended (if e = .connectionClosed Frame.headerSize 0 then .hungUp else .failed (.transport e)), c)

theorem toByte_ofByte (b : UInt8) : (ControlCode.ofByte b).toByte = b := by
  unfold ControlCode.ofByte
  split
  · next h => exact h.symm
  · split
    · next h => exact h.symm
    · split
      · next h => exact h.symm
      · split
        · next h => exact h.symm
        · rfl

theorem awaitFrame_frame {c c' : Codec} {payload : Bytes} (h : c.awaitFrame = (.frame payload, c')) :
    payload.length ≤ Frame.maxPayload ∧
      ∃ source pending, c' = { c with source, pending } ∧
        c.source.undelivered = Frame.encode payload ++ source.undelivered := by
  unfold awaitFrame at h
  split at h
  · next code c₁ hcommand =>
    obtain ⟨b, source, rfl, rfl, hund⟩ := readCommand_control_ok hcommand
    cases h
    refine ⟨by simp [Frame.maxPayload], source, c.pending, rfl, ?_⟩
    rw [toByte_ofByte]
    exact hund
  · next length c₁ hcommand =>
    obtain ⟨-, hle, source, rfl, hund⟩ := readCommand_data_ok hcommand
    split at h
    · next payload' c₂ hdata =>
      obtain ⟨hpending, source', rfl, hund'⟩ := readData_ok hdata
      cases h
      obtain rfl : length = payload.length := Option.some.inj hpending
      refine ⟨hle, source', none, rfl, ?_⟩
      rw [Frame.encode_append, hund]
      exact congrArg _ hund'
    · simp at h
  · simp at h
  · simp at h

theorem awaitFrame_idle {c c' : Codec} (h : c.awaitFrame = (.idle, c')) :
    ∃ source, c' = { c with source } ∧ source.undelivered = c.source.undelivered := by
  unfold awaitFrame at h
  split at h
  · simp at h
  · split at h
    · simp at h
    · simp at h
  · next hcommand =>
    cases h
    exact readCommand_timeout hcommand
  · simp at h

/-- What ends a service before a frame is the reader: it has gone away, or the stream failed. -/
theorem awaitFrame_ended {c c' : Codec} {ended : ServiceEnd} (h : c.awaitFrame = (.ended ended, c')) :
    ended = .hungUp ∨ ∃ e, ended = .failed (.transport e) := by
  unfold awaitFrame at h
  split at h
  · cases h
  · split at h
    · cases h
    · cases h
      exact Or.inr ⟨_, rfl⟩
  · cases h
  · cases h
    split
    · exact Or.inl rfl
    · exact Or.inr ⟨_, rfl⟩

/-- What reading the two halves of a frame leaves as it is, waiting for a frame does. -/
theorem awaitFrame_keeps {P : Codec → Prop} (hcommand : ∀ c, P c → P c.readCommand.2)
    (hdata : ∀ c, P c → P c.readData.2) {c : Codec} (h : P c) : P c.awaitFrame.2 := by
  have hread := hcommand c h
  unfold awaitFrame
  rcases hr : c.readCommand with ⟨e | ⟨code | length⟩, c'⟩
  · rw [hr] at hread
    cases e with
    | timeout => exact hread
    | _ => exact hread
  · rw [hr] at hread
    exact hread
  · rw [hr] at hread
    have hpayload := hdata c' hread
    rcases hd : c'.readData with ⟨e | payload, c''⟩
    · simpa only [hd] using hpayload
    · simpa only [hd] using hpayload

/-! ## Streams that flow -/

variable {c : Codec} {after left : List ReadEvent} {stop : ReadStop}

theorem awaitFrame_flows {payload rest : Bytes}
    (h : Source.Flows (Frame.encode payload ++ rest) after c.source.events)
    (hp : payload.length ≤ Frame.maxPayload) :
    ∃ events pending,
      c.awaitFrame = (.frame payload, { c with source := { c.source with events }, pending }) ∧
        Source.Flows rest after events := by
  rw [Frame.encode_append] at h
  obtain ⟨events, hhead, hbody⟩ := h.read c.sent c.source.atEnd
  obtain ⟨events', hread, hrest⟩ := hbody.readRest c.sent c.source.atEnd
  rw [Frame.length_header] at hhead
  by_cases h1 : payload.length = 1
  · obtain ⟨code, rfl⟩ := List.length_eq_one_iff.mp h1
    have hone : Frame.headerLength (Frame.header 1) = 1 := by decide
    have hcommand : c.readCommand =
        (.ok (.control (.ofByte code)), { c with source := { c.source with events := events' } }) := by
      rw [List.length_singleton] at hhead hread
      simp only [readCommand, read, readRest, hhead, hone, if_true, hread]
      rfl
    refine ⟨events', c.pending, ?_, hrest⟩
    simp only [awaitFrame, hcommand, toByte_ofByte]
  · have hlength := Frame.headerLength_header hp
    have hcommand : c.readCommand = (.ok (.data payload.length),
        { c with source := { c.source with events }, pending := some payload.length }) := by
      simp only [readCommand, read, hhead, hlength, h1, if_false]
    refine ⟨events', none, ?_, hrest⟩
    simp only [awaitFrame, hcommand, readData, readRest, hread]

theorem awaitFrame_failed {c' : Codec} {e : TransportError} (h : c.readCommand = (.error e, c'))
    (htimeout : e ≠ .timeout) (hgone : e ≠ .connectionClosed Frame.headerSize 0) :
    c.awaitFrame = (.ended (.failed (.transport e)), c') := by
  unfold awaitFrame
  rw [h]
  cases e with
  | timeout => exact absurd rfl htimeout
  | _ => simp [hgone]

/-- A stream that stops inside a frame loses what was there of it. -/
theorem awaitFrame_lost {part : Bytes} (h : Source.Flows part after c.source.events)
    (hpart : Frame.Beginning part) (hne : part ≠ [])
    (hstop : Source.StopsAt c.source.atEnd after stop left) (hbreaks : stop.Breaks) :
    ∃ source pending, c.awaitFrame =
      (.ended (.failed (.transport (stop.loss (Frame.underway part).1 (Frame.underway part).2))),
        { c with source, pending }) := by
  have htimeout : ∀ expected received, stop.loss expected received ≠ .timeout := by
    intro expected received
    cases hbreaks <;> simp [ReadStop.loss]
  have hgone : ∀ expected received, expected ≠ Frame.headerSize ∨ received ≠ 0 →
      stop.loss expected received ≠ .connectionClosed Frame.headerSize 0 := by
    intro expected received hdiffers
    cases hbreaks with
    | gone => simpa [ReadStop.loss, Decidable.or_iff_not_imp_left] using hdiffers
    | deadline he => simp [ReadStop.loss]
  cases hpart with
  | nothing => exact absurd rfl hne
  | halfHeader b =>
    have hread := h.read_stopped c.sent hstop hbreaks (show _ < Frame.headerSize from Nat.one_lt_two) hne
    have hcommand : c.readCommand = (.error (stop.loss Frame.headerSize 1),
        { c with source := ⟨left, c.source.atEnd⟩ }) := by
      simp only [readCommand, read, hread]
      rfl
    exact ⟨_, c.pending, awaitFrame_failed hcommand (htimeout _ _) (hgone _ _ (Or.inr Nat.one_ne_zero))⟩
  | part hi lo rest hlt =>
    have hframe : Source.Flows ([hi, lo] ++ rest) after c.source.events := h
    obtain ⟨events, hhead, hbody⟩ := hframe.read c.sent c.source.atEnd
    have hread := hbody.readRest_stopped c.sent hstop hbreaks hlt
    have hhead' : c.source.read Frame.headerSize c.sent = _ := hhead
    by_cases h1 : Frame.headerLength [hi, lo] = 1
    · rw [h1] at hread
      have hcommand : c.readCommand = (.error (stop.loss 1 rest.length),
          { c with source := ⟨left, c.source.atEnd⟩ }) := by
        simp only [readCommand, read, readRest, hhead', h1, if_true, hread]
      rw [Frame.underway, h1]
      exact ⟨_, c.pending, awaitFrame_failed hcommand (htimeout _ _) (hgone _ _ (Or.inl (show 1 ≠ 2 by decide)))⟩
    · have hcommand : c.readCommand = (.ok (.data (Frame.headerLength [hi, lo])),
          { c with source := ⟨events, c.source.atEnd⟩, pending := some (Frame.headerLength [hi, lo]) }) := by
        simp only [readCommand, read, hhead', h1, if_false]
      refine ⟨⟨left, c.source.atEnd⟩, some (Frame.headerLength [hi, lo]), ?_⟩
      simp only [awaitFrame, hcommand, readData, readRest, hread, Frame.underway]

theorem awaitFrame_pause {e : IoError} (he : e.kind.isDeadline)
    (h : Source.Flows [] (.failure e :: left) c.source.events) :
    c.awaitFrame = (.idle, { c with source := ⟨left, c.source.atEnd⟩ }) := by
  have hread : c.source.read Frame.headerSize c.sent = _ :=
    h.read_idle c.sent (Source.stopsAt_deadline he left) he Nat.two_pos
  simp only [awaitFrame, readCommand, read, hread]

theorem awaitFrame_gone (h : c.source.Delivers []) :
    c.awaitFrame = (.ended .hungUp, { c with source := ⟨[], .eof⟩ }) := by
  have hsource : c.source = ⟨c.source.events, .eof⟩ := by rw [← h.ends]
  have hread := h.flows.read_gone c.sent Source.stopsAt_eof (show 0 < Frame.headerSize from Nat.two_pos)
  rw [← hsource] at hread
  simp only [awaitFrame, readCommand, read, hread]
  rfl

end Codec
end CardLink
