import CardLink.Proofs.Wire.Stream

/-!
# Frames on a connection that loses nothing

Encoded frames can be told apart wherever they stand in a byte string, so splitting, reading and writing
agree on them. A sink that takes all bytes gets every frame whole; a codec that reads an answer takes one
frame off the front of what is undelivered, or nothing when it times out.
-/

namespace CardLink

namespace Frame

theorem headerLength_header {n : Nat} (h : n ≤ maxPayload) : headerLength (header n) = n := by
  unfold maxPayload at h
  simp only [header, headerLength, UInt8.toNat_ofNat']
  omega

theorem header_headerLength (hi lo : UInt8) : header (headerLength [hi, lo]) = [hi, lo] := by
  have hhi := hi.toNat_lt
  have hlo := lo.toNat_lt
  simp only [header, headerLength, List.cons.injEq, and_true]
  constructor
  · apply UInt8.toNat_inj.mp
    simp only [UInt8.toNat_ofNat']
    omega
  · apply UInt8.toNat_inj.mp
    simp only [UInt8.toNat_ofNat']
    omega

theorem headerLength_le (hi lo : UInt8) : headerLength [hi, lo] ≤ maxPayload := by
  have hhi := hi.toNat_lt
  have hlo := lo.toNat_lt
  simp only [headerLength, maxPayload]
  omega

theorem length_header (n : Nat) : (header n).length = headerSize := rfl

theorem encode_append (payload rest : Bytes) :
    encode payload ++ rest = header payload.length ++ (payload ++ rest) := by
  simp [encode]

/-- Less than one frame. -/
inductive Beginning : Bytes → Prop where
  | nothing : Beginning []
  | halfHeader (b : UInt8) : Beginning [b]
  | part (hi lo : UInt8) (rest : Bytes) (h : rest.length < headerLength [hi, lo]) :
    Beginning (hi :: lo :: rest)

/-- Every byte string starts with a frame or is less than one. -/
theorem first_frame (bytes : Bytes) :
    Beginning bytes ∨
      ∃ payload rest, payload.length ≤ maxPayload ∧ bytes = encode payload ++ rest := by
  match bytes with
  | [] => exact Or.inl .nothing
  | [b] => exact Or.inl (.halfHeader b)
  | hi :: lo :: rest =>
    by_cases h : rest.length < headerLength [hi, lo]
    · exact Or.inl (.part hi lo rest h)
    · refine Or.inr ⟨rest.take (headerLength [hi, lo]), rest.drop (headerLength [hi, lo]), ?_, ?_⟩
      · have := headerLength_le hi lo
        simp only [List.length_take]
        omega
      · rw [encode_append, List.take_append_drop, List.length_take, Nat.min_eq_left (by omega),
          header_headerLength]
        rfl

theorem split_beginning {bytes : Bytes} (h : Beginning bytes) : split bytes = ([], bytes) := by
  cases h with
  | nothing => rw [split]; simp
  | halfHeader b => rw [split]; simp
  | part hi lo rest h =>
    rw [split]
    simp [Nat.not_le.mpr h]

theorem split_encode {payload : Bytes} (h : payload.length ≤ maxPayload) (rest : Bytes) :
    split (encode payload ++ rest) = (payload :: (split rest).1, (split rest).2) := by
  have hl := headerLength_header h
  rw [encode_append]
  unfold header at hl ⊢
  simp only [List.cons_append, List.nil_append]
  rw [split]
  simp only [hl, List.length_append, Nat.le_add_right, if_true, List.take_left, List.drop_left]

theorem split_encoded {payloads : List Bytes} (h : ∀ payload ∈ payloads, payload.length ≤ maxPayload) :
    split (payloads.flatMap encode) = (payloads, []) := by
  induction payloads with
  | nil => exact split_beginning .nothing
  | cons payload payloads ih =>
    rw [List.flatMap_cons, split_encode (h payload List.mem_cons_self),
      ih fun q hq => h q (List.mem_cons_of_mem _ hq)]

/-- Splitting loses nothing, and less than a frame is left. -/
theorem join_split (bytes : Bytes) :
    (split bytes).1.flatMap encode ++ (split bytes).2 = bytes ∧ Beginning (split bytes).2 := by
  induction hlen : bytes.length using Nat.strongRecOn generalizing bytes with
  | ind length ih =>
    rcases first_frame bytes with hb | ⟨payload, rest, hp, rfl⟩
    · rw [split_beginning hb]
      exact ⟨rfl, hb⟩
    · have hlt : rest.length < length := by
        rw [← hlen, encode_append, List.length_append, List.length_append, length_header, headerSize]
        omega
      obtain ⟨hjoin, hleft⟩ := ih rest.length hlt rest rfl
      rw [split_encode hp]
      refine ⟨?_, hleft⟩
      rw [List.flatMap_cons, List.append_assoc, hjoin]

end Frame

/-! ## Writing -/

namespace Sink

/-- No write or flush fails, and every write takes something. -/
structure TakesAll (s : Sink) : Prop where
  script : ∀ e ∈ s.script, e = .interrupted ∨ ∃ n, e = .accept (n + 1)
  chunk : s.chunk ≠ some 0
  room : s.room = none
  flush : s.flushFailure = none

theorem writeScripted_takesAll {script : List WriteEvent} {s : Sink} (bytes : Bytes)
    (hs : ∀ e ∈ script, e = .interrupted ∨ ∃ n, e = .accept (n + 1)) (hc : s.chunk ≠ some 0)
    (hr : s.room = none) (hf : s.flushFailure = none) :
    ∃ s', writeScripted bytes s script = (.ok (), s') ∧ s'.TakesAll ∧
      s'.accepted = s.accepted ++ bytes := by
  induction script generalizing bytes s with
  | nil =>
    by_cases hb : bytes = []
    · refine ⟨{ s with script := [] }, ?_, ⟨by simp, hc, hr, hf⟩, by simp [hb]⟩
      simp [writeScripted, writeSteady, hb]
    · refine ⟨{ s with script := [], accepted := s.accepted ++ bytes }, ?_, ⟨by simp, hc, hr, hf⟩, rfl⟩
      simp [writeScripted, writeSteady, hb, hc, hr]
  | cons event script ih =>
    have hrest : ∀ e ∈ script, e = .interrupted ∨ ∃ n, e = .accept (n + 1) :=
      fun e he => hs e (List.mem_cons_of_mem _ he)
    by_cases hb : bytes = []
    · refine ⟨{ s with script := event :: script }, ?_, ⟨hs, hc, hr, hf⟩, by simp [hb]⟩
      simp [writeScripted, hb]
    · rcases hs event List.mem_cons_self with rfl | ⟨n, rfl⟩
      · obtain ⟨s', hw, ht, ha⟩ := ih bytes hrest hc hr hf
        refine ⟨s', ?_, ht, ha⟩
        simpa [writeScripted, hb] using hw
      · obtain ⟨s', hw, ht, ha⟩ := ih (s := { s with accepted := s.accepted ++ bytes.take (n + 1) })
          (bytes.drop (n + 1)) hrest hc hr hf
        refine ⟨s', ?_, ht, ?_⟩
        · simpa [writeScripted, hb] using hw
        · rw [ha, List.append_assoc, List.take_append_drop]

theorem TakesAll.write {s : Sink} (h : s.TakesAll) (bytes : Bytes) :
    ∃ s', s.write bytes = (.ok (), s') ∧ s'.TakesAll ∧ s'.accepted = s.accepted ++ bytes :=
  writeScripted_takesAll bytes h.script h.chunk h.room h.flush

end Sink

namespace Codec

/-- The bytes were written as one frame, and nothing else changed. -/
structure Wrote (frame : Bytes) (c c' : Codec) : Prop where
  source : c'.source = c.source
  pending : c'.pending = c.pending
  maxResponse : c'.maxResponse = c.maxResponse
  sent : c'.sent = c.sent + 1
  accepted : c'.sink.accepted = c.sink.accepted ++ frame
  takesAll : c'.sink.TakesAll

theorem writeFrame_takesAll {c : Codec} (h : c.sink.TakesAll) (frame : Bytes) :
    ∃ c', c.writeFrame frame = (.ok (), c') ∧ Wrote frame c c' := by
  obtain ⟨s', hw, ht, ha⟩ := h.write frame
  refine ⟨{ c with sink := { s' with flushes := s'.flushes + 1 }, sent := c.sent + 1 }, ?_,
    rfl, rfl, rfl, rfl, ha, ht.script, ht.chunk, ht.room, ht.flush⟩
  simp [writeFrame, hw, Sink.flush, ht.flush]

theorem writeCommand_takesAll {c : Codec} (h : c.sink.TakesAll) (code : ControlCode) :
    ∃ c', c.writeCommand code = (.ok (), c') ∧ Wrote (Frame.control code) c c' :=
  writeFrame_takesAll h (Frame.control code)

theorem writeData_takesAll {c : Codec} (h : c.sink.TakesAll) {payload : Bytes}
    (hp : payload.length ≤ Frame.maxPayload) :
    ∃ c', c.writeData payload = (.ok (), c') ∧ Wrote (Frame.encode payload) c c' := by
  obtain ⟨c', hw, hc⟩ := writeFrame_takesAll h (Frame.encode payload)
  refine ⟨c', ?_, hc⟩
  rw [writeData, if_neg (by omega)]
  exact hw

/-! ## Reading answers -/

theorem readResponse_ok {c c' : Codec} {raw : Bytes} (h : c.readResponse = (.ok raw, c')) :
    c' = { c with source := c'.source } ∧ raw.length ≤ Frame.maxPayload ∧
      c.source.undelivered = Frame.encode raw ++ c'.source.undelivered := by
  unfold readResponse read readRest at h
  rcases hr : c.source.read Frame.headerSize c.sent with ⟨outcome, source⟩
  cases outcome with
  | error e => simp [hr] at h
  | ok header =>
    obtain ⟨hlen, hhead⟩ := Source.read_ok hr
    simp only [hr] at h
    split at h
    · simp at h
    · rcases hp : source.readRest (Frame.headerLength header) c.sent with ⟨outcome', source'⟩
      simp only [hp, Prod.mk.injEq] at h
      obtain ⟨rfl, rfl⟩ := h
      obtain ⟨hraw, hbody⟩ := Source.read_ok (Source.readRest_of_ok.mp hp)
      refine ⟨rfl, ?_⟩
      match header, hlen with
      | [hi, lo], _ =>
        refine ⟨hraw ▸ Frame.headerLength_le hi lo, ?_⟩
        rw [Frame.encode_append, hraw, Frame.header_headerLength, hhead, hbody]

/-- A timeout leaves the next answer whole. -/
theorem readResponse_timeout {c c' : Codec} (h : c.readResponse = (.error .timeout, c')) :
    c' = { c with source := c'.source } ∧ c'.source.undelivered = c.source.undelivered := by
  unfold readResponse read readRest at h
  rcases hr : c.source.read Frame.headerSize c.sent with ⟨outcome, source⟩
  cases outcome with
  | error e =>
    simp only [hr, Prod.mk.injEq, Except.error.injEq] at h
    obtain ⟨rfl, rfl⟩ := h
    exact ⟨rfl, Source.read_timeout hr⟩
  | ok header =>
    simp only [hr] at h
    split at h
    · simp at h
    · exact absurd (congrArg Prod.fst h) (Source.readRest_ne_timeout _ c.sent source)

/-- Only an answer of a possible length is refused. -/
theorem readResponse_tooLarge {c c' : Codec} {length max : Nat}
    (h : c.readResponse = (.error (.frameTooLarge length max), c')) : length ≤ Frame.maxPayload := by
  unfold readResponse read readRest at h
  rcases hr : c.source.read Frame.headerSize c.sent with ⟨outcome, source⟩
  cases outcome with
  | error e =>
    simp only [hr, Prod.mk.injEq] at h
    exact absurd ((congrArg Prod.fst hr).trans h.1) Source.read_ne_tooLarge
  | ok header =>
    obtain ⟨hlen, -⟩ := Source.read_ok hr
    simp only [hr] at h
    split at h
    · simp only [Prod.mk.injEq, Except.error.injEq, TransportError.frameTooLarge.injEq] at h
      obtain ⟨⟨rfl, -⟩, -⟩ := h
      match header, hlen with
      | [hi, lo], _ => exact Frame.headerLength_le hi lo
    · exact absurd (congrArg Prod.fst h) Source.readRest_ne_tooLarge

theorem readResponse_source (c : Codec) : ∃ source, c.readResponse.2 = { c with source } := by
  unfold readResponse read readRest
  rcases hr : c.source.read Frame.headerSize c.sent with ⟨outcome, source⟩
  cases outcome with
  | error e => exact ⟨source, rfl⟩
  | ok header =>
    simp only
    split
    · exact ⟨source, rfl⟩
    · exact ⟨(source.readRest (Frame.headerLength header) c.sent).2, rfl⟩

/-- An answer that has arrived is read whole, off the front of all that ever arrives. -/
theorem readResponse_arrived {c : Codec} {raw rest : Bytes} (hs : Source.Steady c.source.events)
    (h : Source.arrived c.sent c.source.events = Frame.encode raw ++ rest)
    (hp : raw.length ≤ Frame.maxPayload) (hm : raw.length ≤ c.maxResponse) :
    ∃ source, c.readResponse = (.ok raw, { c with source }) ∧ Source.Steady source.events ∧
      ∀ n, c.sent ≤ n → Source.arrived n c.source.events =
        Frame.encode raw ++ Source.arrived n source.events := by
  rw [Frame.encode_append] at h
  obtain ⟨source, hr, hsteady, harr⟩ := Source.read_arrived hs h
  rw [Frame.length_header] at hr
  have hbody : Source.arrived c.sent source.events = raw ++ rest :=
    List.append_cancel_left ((harr c.sent (Nat.le_refl _)).symm.trans h)
  obtain ⟨source', hr', hsteady', harr'⟩ := Source.read_arrived hsteady hbody
  have hrest := Source.readRest_of_ok.mpr hr'
  refine ⟨source', ?_, hsteady', ?_⟩
  · simp [readResponse, read, readRest, hr, Frame.headerLength_header hp, hrest, Nat.not_lt.mpr hm]
  · intro n hn
    rw [harr n hn, harr' n hn, Frame.encode_append]

/-! ## Reading requests -/

theorem readCommand_control {c : Codec} {code : UInt8} {rest : Bytes} {atEnd : SourceEnd}
    (h : c.source.Carries (Frame.encode [code] ++ rest) atEnd) :
    ∃ source, c.readCommand = (.ok (.control (.ofByte code)), { c with source }) ∧
      source.Carries rest atEnd := by
  rw [Frame.encode_append] at h
  obtain ⟨source, hr, hc⟩ := h.read c.sent
  rw [Frame.length_header] at hr
  obtain ⟨source', hr', hc'⟩ := hc.readRest c.sent
  refine ⟨source', ?_, hc'⟩
  have hl : Frame.headerLength (Frame.header 1) = 1 := by decide
  simp only [List.length_singleton] at hr hr'
  simp [readCommand, read, readRest, hr, hl, hr']

/-- The payload stays on the stream, announced. -/
theorem readCommand_announced {c : Codec} {hi lo : UInt8} {rest : Bytes} {atEnd : SourceEnd}
    (h : c.source.Carries (hi :: lo :: rest) atEnd) (h1 : Frame.headerLength [hi, lo] ≠ 1) :
    ∃ source, c.readCommand = (.ok (.data (Frame.headerLength [hi, lo])),
        { c with source, pending := some (Frame.headerLength [hi, lo]) }) ∧
      source.Carries rest atEnd := by
  have h' : c.source.Carries ([hi, lo] ++ rest) atEnd := h
  obtain ⟨source, hr, hc⟩ := h'.read c.sent
  refine ⟨source, ?_, hc⟩
  simp only [List.length_cons, List.length_nil] at hr
  simp [readCommand, read, Frame.headerSize, hr, h1]

theorem readCommand_data {c : Codec} {payload rest : Bytes} {atEnd : SourceEnd}
    (h : c.source.Carries (Frame.encode payload ++ rest) atEnd)
    (hp : payload.length ≤ Frame.maxPayload) (h1 : payload.length ≠ 1) :
    ∃ source, c.readCommand =
        (.ok (.data payload.length), { c with source, pending := some payload.length }) ∧
      source.Carries (payload ++ rest) atEnd := by
  rw [Frame.encode_append] at h
  have hl := Frame.headerLength_header hp
  have ha := readCommand_announced h (by rw [← Frame.header, hl]; exact h1)
  rwa [← Frame.header, hl] at ha

theorem readData_carries {c : Codec} {payload rest : Bytes} {atEnd : SourceEnd}
    (h : c.source.Carries (payload ++ rest) atEnd) (hp : c.pending = some payload.length) :
    ∃ source, c.readData = (.ok payload, { c with source, pending := none }) ∧
      source.Carries rest atEnd := by
  obtain ⟨source, hr, hc⟩ := h.readRest c.sent
  refine ⟨source, ?_, hc⟩
  simp [readData, hp, readRest, hr]

theorem readCommand_header_short {c : Codec} {bytes : Bytes} (h : c.source.Carries bytes .eof)
    (hlt : bytes.length < Frame.headerSize) :
    ∃ source, c.readCommand =
      (.error (.connectionClosed Frame.headerSize bytes.length), { c with source }) := by
  obtain ⟨source, hr⟩ := h.read_short hlt c.sent
  refine ⟨source, ?_⟩
  simp only [Source.failure, SourceEnd.stop] at hr
  simp [readCommand, read, hr]

theorem readCommand_code_missing {c : Codec} {hi lo : UInt8}
    (h : c.source.Carries [hi, lo] .eof) (h1 : Frame.headerLength [hi, lo] = 1) :
    ∃ source, c.readCommand = (.error (.connectionClosed 1 0), { c with source }) := by
  have h' : c.source.Carries ([hi, lo] ++ []) .eof := h
  obtain ⟨source, hr, hc⟩ := h'.read c.sent
  obtain ⟨source', hr'⟩ := hc.readRest_short (show ([] : Bytes).length < 1 from Nat.one_pos) c.sent
  refine ⟨source', ?_⟩
  simp only [List.length_cons, List.length_nil] at hr hr'
  simp [readCommand, read, readRest, Frame.headerSize, hr, h1, hr']

theorem readData_short {c : Codec} {bytes : Bytes} {length : Nat} (h : c.source.Carries bytes .eof)
    (hp : c.pending = some length) (hlt : bytes.length < length) :
    ∃ source, c.readData = (.error (.connectionClosed length bytes.length), { c with source }) := by
  obtain ⟨source, hr⟩ := h.readRest_short hlt c.sent
  refine ⟨source, ?_⟩
  simp [readData, hp, readRest, hr]

end Codec
end CardLink
