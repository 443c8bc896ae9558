import CardLink.Proofs.Wire.Frames

/-!
# Frames arrive as they were written

Whatever sequence of frames is written, its bytes are received as the same sequence, frame after frame.
The one exception is built into the format: a payload of one byte is a control frame to a reader that has
frames announced; a reader that takes them whole gets the payload.
-/

namespace CardLink.Codec

/-- What a writer may be asked for. -/
inductive Writing where
  | command (code : ControlCode)
  | data (payload : Bytes)
  deriving DecidableEq, Repr

/-- How the reader takes a frame: as it is announced, or an answer as a whole. -/
inductive Taking where
  | announced | whole
  deriving DecidableEq, Repr

namespace Writing

def request : Writing → Request
  | .command code => .writeCommand code
  | .data payload => .writeData payload

def fits : Writing → Bool
  | .command _ => true
  | .data payload => payload.length ≤ Frame.maxPayload

def frame : Writing → Bytes
  | .command code => Frame.control code
  | .data payload => Frame.encode payload

def outcome : Writing → Except TransportError Result
  | .command _ => .ok .done
  | .data payload =>
    if Frame.maxPayload < payload.length then
      .error (.frameTooLarge payload.length Frame.maxPayload)
    else .ok .done

/-- Only data of an accepted length is taken as a whole. -/
def allows (limit : Nat) : Taking → Writing → Bool
  | .announced, _ => true
  | .whole, .command _ => false
  | .whole, .data payload => payload.length ≤ limit

/-- The results of the calls that take the frame. -/
def received (taking : Taking) : Writing → List (Except TransportError Result)
  | .command code => [.ok (.incoming (.control (.ofByte code.toByte)))]
  | .data payload =>
    match taking, payload with
    | .announced, [b] => [.ok (.incoming (.control (.ofByte b)))]
    | .announced, _ => [.ok (.incoming (.data payload.length)), .ok (.bytes payload)]
    | .whole, _ => [.ok (.bytes payload)]

end Writing

/-- Takes one frame. The payload of data is read when it was announced. -/
def receive (c : Codec) : Taking → List (Except TransportError Result) × Codec
  | .announced =>
    let (result, c) := c.perform .readCommand
    match result with
    | .ok (.incoming (.data _)) =>
      let (payload, c) := c.perform .readData
      ([result, payload], c)
    | _ => ([result], c)
  | .whole =>
    let (result, c) := c.perform .readResponse
    ([result], c)

def receiveAll (c : Codec) : List Taking → List (Except TransportError Result) × Codec
  | [] => ([], c)
  | taking :: takings =>
    let (results, c) := c.receive taking
    let (more, c) := c.receiveAll takings
    (results ++ more, c)

/-! ## Writing -/

theorem writeData_tooLarge (c : Codec) {payload : Bytes} (h : Frame.maxPayload < payload.length) :
    c.writeData payload = (.error (.frameTooLarge payload.length Frame.maxPayload), c) :=
  if_pos h

theorem perform_writing {c : Codec} (h : c.sink.TakesAll) (writing : Writing) :
    ∃ c', c.perform writing.request = (writing.outcome, c') ∧ c'.sink.TakesAll ∧
      c'.sink.accepted = c.sink.accepted ++ if writing.fits then writing.frame else [] := by
  cases writing with
  | command code =>
    obtain ⟨c', hwrite, hwrote⟩ := writeCommand_takesAll h code
    refine ⟨c', ?_, hwrote.takesAll, hwrote.accepted⟩
    simp only [Writing.request, perform, hwrite]
    rfl
  | data payload =>
    by_cases hfits : payload.length ≤ Frame.maxPayload
    · obtain ⟨c', hwrite, hwrote⟩ := writeData_takesAll h hfits
      refine ⟨c', ?_, hwrote.takesAll, ?_⟩
      · simp only [Writing.request, perform, hwrite, Writing.outcome, if_neg (Nat.not_lt.mpr hfits)]
        rfl
      · simpa [Writing.fits, Writing.frame, hfits] using hwrote.accepted
    · have hlong := Nat.lt_of_not_le hfits
      refine ⟨c, ?_, h, by simp [Writing.fits, hfits]⟩
      simp only [Writing.request, perform, writeData_tooLarge c hlong, Writing.outcome, if_pos hlong]
      rfl

theorem run_writings {c : Codec} (h : c.sink.TakesAll) (writings : List Writing) :
    (c.run (writings.map Writing.request)).1 = writings.map Writing.outcome ∧
      (c.run (writings.map Writing.request)).2.sink.accepted =
        c.sink.accepted ++ (writings.filter Writing.fits).flatMap Writing.frame := by
  induction writings generalizing c with
  | nil => simp [run]
  | cons writing writings ih =>
    obtain ⟨c', hstep, h', haccepted⟩ := perform_writing h writing
    obtain ⟨houtcomes, hrest⟩ := ih h'
    simp only [List.map_cons, run, hstep, houtcomes, hrest, haccepted, true_and]
    cases hfits : writing.fits <;> simp [hfits]

/-! ## Reading -/

theorem readResponse_data {c : Codec} {payload rest : Bytes} {atEnd : SourceEnd}
    (h : c.source.Carries (Frame.encode payload ++ rest) atEnd)
    (hp : payload.length ≤ Frame.maxPayload) (hm : payload.length ≤ c.maxResponse) :
    ∃ source, c.readResponse = (.ok payload, { c with source }) ∧ source.Carries rest atEnd := by
  rw [Frame.encode_append] at h
  obtain ⟨source, hread, hc⟩ := h.read c.sent
  rw [Frame.length_header] at hread
  obtain ⟨source', hrest, hc'⟩ := hc.readRest c.sent
  refine ⟨source', ?_, hc'⟩
  simp [readResponse, read, readRest, hread, Frame.headerLength_header hp, Nat.not_lt.mpr hm, hrest]

theorem control_eq_encode (code : ControlCode) : Frame.control code = Frame.encode [code.toByte] := by
  simp [Frame.control, Frame.encode, Frame.header]

theorem received_announced {payload : Bytes} (h1 : payload.length ≠ 1) :
    Writing.received .announced (.data payload) =
      [.ok (.incoming (.data payload.length)), .ok (.bytes payload)] := by
  match payload with
  | [] => rfl
  | [b] => exact absurd rfl h1
  | b :: b' :: rest => rfl

theorem receive_control {c : Codec} {code : UInt8} {rest : Bytes} {atEnd : SourceEnd}
    (h : c.source.Carries (Frame.encode [code] ++ rest) atEnd) :
    ∃ source, c.receive .announced = ([.ok (.incoming (.control (.ofByte code)))], { c with source }) ∧
      source.Carries rest atEnd := by
  obtain ⟨source, hread, hc⟩ := readCommand_control h
  refine ⟨source, ?_, hc⟩
  simp only [receive, perform, hread]
  rfl

theorem receive_writing {c : Codec} {writing : Writing} {taking : Taking} {rest : Bytes}
    {atEnd : SourceEnd} (h : c.source.Carries (writing.frame ++ rest) atEnd) (hp : c.pending = none)
    (hfits : writing.fits = true) (hallows : writing.allows c.maxResponse taking = true) :
    ∃ source, c.receive taking = (writing.received taking, { c with source }) ∧
      source.Carries rest atEnd := by
  cases writing with
  | command code =>
    cases taking with
    | announced =>
      rw [Writing.frame, control_eq_encode] at h
      exact receive_control h
    | whole => cases hallows
  | data payload =>
    have hlen : payload.length ≤ Frame.maxPayload := by simpa [Writing.fits] using hfits
    cases taking with
    | announced =>
      by_cases h1 : payload.length = 1
      · obtain ⟨b, rfl⟩ := List.length_eq_one_iff.mp h1
        exact receive_control h
      · obtain ⟨source, hread, hc⟩ := readCommand_data h hlen h1
        have hpending : { c with source, pending := some payload.length }.pending = some payload.length := rfl
        obtain ⟨source', hread', hc'⟩ := readData_carries hc hpending
        refine ⟨source', ?_, hc'⟩
        simp only [receive, perform, hread, hread', Except.map, received_announced h1, hp]
    | whole =>
      obtain ⟨source, hread, hc⟩ := readResponse_data h hlen (of_decide_eq_true hallows)
      refine ⟨source, ?_, hc⟩
      simp only [receive, perform, hread]
      rfl

theorem receiveAll_writings {c : Codec} {plan : List (Writing × Taking)} {rest : Bytes}
    {atEnd : SourceEnd}
    (h : c.source.Carries ((plan.map Prod.fst).flatMap Writing.frame ++ rest) atEnd) (hp : c.pending = none)
    (hfits : ∀ p ∈ plan, p.1.fits = true) (hallows : ∀ p ∈ plan, p.1.allows c.maxResponse p.2 = true) :
    ∃ source, c.receiveAll (plan.map Prod.snd) =
        (plan.flatMap fun p => p.1.received p.2, { c with source }) ∧ source.Carries rest atEnd := by
  induction plan generalizing c with
  | nil => exact ⟨c.source, rfl, h⟩
  | cons p plan ih =>
    obtain ⟨writing, taking⟩ := p
    rw [List.map_cons, List.flatMap_cons, List.append_assoc] at h
    obtain ⟨source, hreceive, hc⟩ :=
      receive_writing h hp (hfits _ List.mem_cons_self) (hallows _ List.mem_cons_self)
    obtain ⟨source', hall, hc'⟩ := ih (c := { c with source }) hc hp
      (fun p hmem => hfits p (List.mem_cons_of_mem _ hmem))
      (fun p hmem => hallows p (List.mem_cons_of_mem _ hmem))
    refine ⟨source', ?_, hc'⟩
    simp only [List.map_cons, receiveAll, hreceive, hall, List.flatMap_cons]

/-- Frames that were written are received in order, each taken in any way that is allowed for it, and then
the stream is at its end. Data that is too long is refused and leaves nothing on the stream. -/
theorem written_frames_are_received {w : Codec} (hw : w.sink.TakesAll) (writings : List Writing) :
    (w.run (writings.map Writing.request)).1 = writings.map Writing.outcome ∧
    (w.run (writings.map Writing.request)).2.sink.accepted =
      w.sink.accepted ++ (writings.filter Writing.fits).flatMap Writing.frame ∧
    (∀ (c : Codec) (payload : Bytes), Frame.maxPayload < payload.length →
      c.writeData payload = (.error (.frameTooLarge payload.length Frame.maxPayload), c)) ∧
    ∀ (c : Codec) (plan : List (Writing × Taking)),
      plan.map Prod.fst = writings.filter Writing.fits →
      c.source.Carries ((writings.filter Writing.fits).flatMap Writing.frame) .eof → c.pending = none →
      (∀ p ∈ plan, p.1.allows c.maxResponse p.2 = true) →
      ∃ c', c.receiveAll (plan.map Prod.snd) = (plan.flatMap fun p => p.1.received p.2, c') ∧
        c'.pending = none ∧
        ∃ source, c'.readCommand = (.error (.connectionClosed Frame.headerSize 0), { c' with source }) := by
  obtain ⟨houtcomes, haccepted⟩ := run_writings hw writings
  refine ⟨houtcomes, haccepted, fun c _ hlong => writeData_tooLarge c hlong, ?_⟩
  intro c plan hplan hcarries hpending hallows
  have hfits : ∀ p ∈ plan, p.1.fits = true := by
    intro p hmem
    have hmem' := List.mem_map_of_mem (f := Prod.fst) hmem
    rw [hplan] at hmem'
    exact (List.mem_filter.mp hmem').2
  rw [← hplan, ← List.append_nil (List.flatMap _ _)] at hcarries
  obtain ⟨source, hall, hc⟩ := receiveAll_writings hcarries hpending hfits hallows
  have hempty : ([] : Bytes).length < Frame.headerSize := by decide
  exact ⟨{ c with source }, hall, hpending, readCommand_header_short hc hempty⟩

def fourFrames : List Writing := [.command .getAtr, .data [0x07], .data [0x07], .data [0x90, 0x00]]

def fourTakings : List Taking := [.announced, .announced, .whole, .announced]

def fourBytes : Bytes := [0, 1, 4, 0, 1, 7, 0, 1, 7, 0, 2, 0x90, 0]

/-- The payload of one byte is a code where frames are announced, and itself where they are taken whole. -/
theorem written_frames_are_received_four :
    ({ source := {} : Codec }.run (fourFrames.map Writing.request)).2.sink.accepted = fourBytes ∧
    (∃ c', { source := { events := [.chunk fourBytes] } : Codec }.receiveAll fourTakings =
        ([.ok (.incoming (.control .getAtr)), .ok (.incoming (.control (.other 7))), .ok (.bytes [0x07]),
          .ok (.incoming (.data 2)), .ok (.bytes [0x90, 0x00])], c') ∧
      c'.pending = none ∧ c'.readCommand.1 = .error (.connectionClosed 2 0)) ∧
    { source := {} : Codec }.writeData (List.replicate 65536 0x00) =
      (.error (.frameTooLarge 65536 65535), { source := {} }) := by
  have htakes : Sink.TakesAll {} := ⟨by simp, by simp, rfl, rfl⟩
  have hcarries : Source.Carries fourBytes .eof { events := [.chunk fourBytes] } := by
    refine ⟨?_, rfl, rfl⟩
    intro e he
    exact ⟨fourBytes, by decide, List.mem_singleton.mp he⟩
  obtain ⟨-, haccepted, hrefused, hreceived⟩ :=
    written_frames_are_received (w := { source := {} }) htakes fourFrames
  refine ⟨haccepted.trans rfl, ?_, ?_⟩
  · obtain ⟨c', hall, hpending, source, hend⟩ :=
      hreceived { source := { events := [.chunk fourBytes] } } (fourFrames.zip fourTakings) rfl hcarries rfl
        (by decide)
    exact ⟨c', hall, hpending, congrArg Prod.fst hend⟩
  · have hlong : Frame.maxPayload < (List.replicate 65536 (0x00 : UInt8)).length := by
      rw [List.length_replicate]
      decide
    have hresult := hrefused { source := {} } _ hlong
    rwa [List.length_replicate] at hresult

end CardLink.Codec
