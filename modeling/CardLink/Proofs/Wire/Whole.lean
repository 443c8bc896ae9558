import CardLink.Proofs.Wire.Frames

/-!
# Calls that succeed

What a call on a codec has done when it succeeds, on any source and any sink, also such as fail at other
times: a write has handed over its whole frame, and a read has taken its whole part off the front of what
is undelivered. A deadline met at the start of a frame has taken nothing.
-/

namespace CardLink

namespace Frame

theorem not_beginning_encode {payload rest : Bytes} (h : payload.length ≤ maxPayload) :
    ¬ Beginning (encode payload ++ rest) := by
  intro hb
  have hsplit := split_encode h rest
  rw [split_beginning hb] at hsplit
  exact List.cons_ne_nil _ _ (congrArg Prod.fst hsplit).symm

/-- The frame at the front of a byte string is the only one there. -/
theorem encode_append_inj {payload payload' rest rest' : Bytes} (hp : payload.length ≤ maxPayload)
    (hp' : payload'.length ≤ maxPayload) (h : encode payload ++ rest = encode payload' ++ rest') :
    payload = payload' ∧ rest = rest' := by
  have hsplit := congrArg split h
  rw [split_encode hp, split_encode hp'] at hsplit
  obtain rfl : payload = payload' := (List.cons.inj (congrArg Prod.fst hsplit)).1
  exact ⟨rfl, List.append_cancel_left h⟩

theorem length_split_le (bytes : Bytes) : ∀ payload ∈ (split bytes).1, payload.length ≤ maxPayload := by
  induction hlen : bytes.length using Nat.strongRecOn generalizing bytes with
  | ind length ih =>
    rcases first_frame bytes with hb | ⟨payload, rest, hp, rfl⟩
    · simp [split_beginning hb]
    · have hlt : rest.length < length := by
        rw [← hlen, encode_append, List.length_append, List.length_append, length_header, headerSize]
        omega
      rw [split_encode hp]
      intro q hq
      rcases List.mem_cons.mp hq with rfl | hq
      · exact hp
      · exact ih rest.length hlt rest rfl q hq

end Frame

namespace Sink

theorem writeSteady_ok {bytes : Bytes} {s s' : Sink} (h : s.writeSteady bytes = (.ok (), s')) :
    s'.accepted = s.accepted ++ bytes := by
  unfold writeSteady at h
  split at h
  · next hnil =>
    cases h
    rw [hnil, List.append_nil]
  · split at h
    · simp at h
    · split at h
      · cases h
        rfl
      · next room _ =>
        simp only at h
        split at h
        · next hroom =>
          cases h
          rw [List.take_of_length_le hroom]
        · simp at h

theorem writeScripted_ok {script : List WriteEvent} {bytes : Bytes} {s s' : Sink}
    (h : writeScripted bytes s script = (.ok (), s')) : s'.accepted = s.accepted ++ bytes := by
  induction script generalizing bytes s with
  | nil => exact writeSteady_ok (s := { s with script := [] }) h
  | cons event script ih =>
    unfold writeScripted at h
    split at h
    · next hnil =>
      cases h
      rw [hnil, List.append_nil]
    · cases event with
      | interrupted => exact ih h
      | failure e => simp at h
      | accept most =>
        simp only at h
        split at h
        · simp at h
        · rw [ih h, List.append_assoc, List.take_append_drop]

theorem write_ok {bytes : Bytes} {s s' : Sink} (h : s.write bytes = (.ok (), s')) :
    s'.accepted = s.accepted ++ bytes :=
  writeScripted_ok h

@[simp] theorem flush_accepted (s : Sink) : s.flush.2.accepted = s.accepted := by
  simp only [flush]
  split
  · rfl
  · split
    · rfl
    · rfl

end Sink

namespace Codec

/-! ## Writing -/

theorem writeFrame_ok {frame : Bytes} {c c' : Codec} (h : c.writeFrame frame = (.ok (), c')) :
    c'.sink.accepted = c.sink.accepted ++ frame := by
  unfold writeFrame at h
  split at h
  · simp at h
  · next sink hwrite =>
    have hflush := sink.flush_accepted
    split at h
    · simp at h
    · next sink' heq =>
      cases h
      rw [heq] at hflush
      exact hflush.trans (Sink.write_ok hwrite)

theorem writeData_ok {payload : Bytes} {c c' : Codec} (h : c.writeData payload = (.ok (), c')) :
    payload.length ≤ Frame.maxPayload ∧
      c'.sink.accepted = c.sink.accepted ++ Frame.encode payload := by
  unfold writeData at h
  split at h
  · simp at h
  · next hlen => exact ⟨Nat.le_of_not_lt hlen, writeFrame_ok h⟩

/-! ## Reading -/

theorem readCommand_control_ok {code : ControlCode} {c c' : Codec}
    (h : c.readCommand = (.ok (.control code), c')) :
    ∃ b source, code = .ofByte b ∧ c' = { c with source } ∧
      c.source.undelivered = Frame.encode [b] ++ source.undelivered := by
  unfold readCommand read readRest at h
  rcases hhead : c.source.read Frame.headerSize c.sent with ⟨outcome, source⟩
  cases outcome with
  | error e => simp [hhead] at h
  | ok header =>
    obtain ⟨hlen, hund⟩ := Source.read_ok hhead
    simp only [hhead] at h
    split at h
    · next hone =>
      rcases hcode : source.readRest 1 c.sent with ⟨outcome, source'⟩
      cases outcome with
      | error e => simp [hcode] at h
      | ok bytes =>
        obtain ⟨hlen', hund'⟩ := Source.read_ok (Source.readRest_of_ok.mp hcode)
        obtain ⟨b, rfl⟩ := List.length_eq_one_iff.mp hlen'
        simp only [hcode, Prod.mk.injEq, Except.ok.injEq, Incoming.control.injEq] at h
        obtain ⟨rfl, rfl⟩ := h
        match header, hlen with
        | [hi, lo], _ =>
          refine ⟨b, source', rfl, rfl, ?_⟩
          rw [Frame.encode_append, List.length_singleton, ← hone, Frame.header_headerLength, hund, hund']
    · simp at h

theorem readCommand_data_ok {length : Nat} {c c' : Codec} (h : c.readCommand = (.ok (.data length), c')) :
    length ≠ 1 ∧ length ≤ Frame.maxPayload ∧
      ∃ source, c' = { c with source, pending := some length } ∧
        c.source.undelivered = Frame.header length ++ source.undelivered := by
  unfold readCommand read readRest at h
  rcases hhead : c.source.read Frame.headerSize c.sent with ⟨outcome, source⟩
  cases outcome with
  | error e => simp [hhead] at h
  | ok header =>
    obtain ⟨hlen, hund⟩ := Source.read_ok hhead
    simp only [hhead] at h
    split at h
    · split at h
      · simp at h
      · simp at h
    · next hone =>
      simp only [Prod.mk.injEq, Except.ok.injEq, Incoming.data.injEq] at h
      obtain ⟨rfl, rfl⟩ := h
      match header, hlen with
      | [hi, lo], _ =>
        refine ⟨hone, Frame.headerLength_le hi lo, source, rfl, ?_⟩
        rw [Frame.header_headerLength, hund]

theorem readCommand_timeout {c c' : Codec} (h : c.readCommand = (.error .timeout, c')) :
    ∃ source, c' = { c with source } ∧ source.undelivered = c.source.undelivered := by
  unfold readCommand read readRest at h
  rcases hhead : c.source.read Frame.headerSize c.sent with ⟨outcome, source⟩
  cases outcome with
  | error e =>
    simp only [hhead, Prod.mk.injEq, Except.error.injEq] at h
    obtain ⟨rfl, rfl⟩ := h
    exact ⟨source, rfl, Source.read_timeout hhead⟩
  | ok header =>
    simp only [hhead] at h
    split at h
    · rcases hcode : source.readRest 1 c.sent with ⟨outcome, source'⟩
      cases outcome with
      | ok bytes => simp [hcode] at h
      | error e =>
        simp only [hcode, Prod.mk.injEq, Except.error.injEq] at h
        obtain ⟨rfl, -⟩ := h
        exact absurd (congrArg Prod.fst hcode) (Source.readRest_ne_timeout 1 c.sent source)
    · simp at h

theorem readData_ok {payload : Bytes} {c c' : Codec} (h : c.readData = (.ok payload, c')) :
    c.pending = some payload.length ∧
      ∃ source, c' = { c with source, pending := none } ∧
        c.source.undelivered = payload ++ source.undelivered := by
  unfold readData at h
  split at h
  · simp at h
  · next length hpending =>
    unfold readRest at h
    rcases hread : c.source.readRest length c.sent with ⟨outcome, source⟩
    cases outcome with
    | error e => simp [hread] at h
    | ok bytes =>
      obtain ⟨hlen, hund⟩ := Source.read_ok (Source.readRest_of_ok.mp hread)
      simp only [hread, Prod.mk.injEq, Except.ok.injEq] at h
      obtain ⟨rfl, rfl⟩ := h
      exact ⟨hlen ▸ hpending, source, rfl, hund⟩

end Codec
end CardLink
