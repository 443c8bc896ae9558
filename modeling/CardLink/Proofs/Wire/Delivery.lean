import CardLink.Proofs.Wire.Stream

/-!
# Delivery in pieces

A codec cannot tell how its stream is delivered: wherever the pieces end and whatever reads are interrupted,
the same calls give the same results and stop at the same byte. Deadlines are not part of a delivery here,
since meeting one is a result.
-/

namespace CardLink

namespace Source

/-- The source delivers those bytes in non-empty pieces, with interruptions anywhere, and then ends. -/
structure Delivers (bytes : Bytes) (s : Source) : Prop where
  flowing : ∀ e ∈ s.events, Flowing e
  whole : s.undelivered = bytes
  ends : s.atEnd = .eof

/-- What reading that many bytes gives where only those are to come. -/
def taken (expected : Nat) (bytes : Bytes) : Except TransportError Bytes :=
  if expected ≤ bytes.length then .ok (bytes.take expected)
  else .error (.connectionClosed expected bytes.length)

variable {bytes : Bytes} {s : Source}

theorem Delivers.read (h : s.Delivers bytes) (expected sent : Nat) :
    ∃ s', s.read expected sent = (taken expected bytes, s') ∧ s'.Delivers (bytes.drop expected) := by
  have hbytes := fill_bytes sent s.atEnd expected s.events
  have hlength := fill_length sent s.atEnd expected s.events
  have hleft := fill_left Flowing.rest sent s.atEnd expected s.events h.flowing
  have hends := fill_ends sent s.atEnd expected s.events h.flowing
  have hwhole : s.events.flatMap ReadEvent.bytes = bytes := h.whole
  rw [hwhole] at hbytes
  unfold Source.read
  rcases hf : fill sent s.atEnd expected s.events with ⟨got, stop, events⟩
  rw [hf] at hbytes hlength hleft hends
  simp only at hbytes hlength hleft hends
  rcases hends with rfl | ⟨rfl, rfl, hlt⟩
  · have hgot := hlength rfl
    refine ⟨{ s with events }, ?_, hleft, ?_, h.ends⟩
    · rw [taken, ← hbytes, if_pos (by simp [hgot]), ← hgot, List.take_left]
    · rw [← hbytes, ← hgot, List.drop_left]
      rfl
  · rw [List.flatMap_nil, List.append_nil] at hbytes
    subst hbytes
    refine ⟨{ s with events := [] }, ?_, hleft, ?_, h.ends⟩
    · rw [taken, if_neg (Nat.not_le.mpr hlt), h.ends]
      rfl
    · rw [List.drop_of_length_le (Nat.le_of_lt hlt)]
      rfl

theorem taken_ne_timeout (expected : Nat) (bytes : Bytes) : taken expected bytes ≠ .error .timeout := by
  unfold taken
  by_cases h : expected ≤ bytes.length
  · simp [h]
  · simp [h]

theorem Delivers.readRest (h : s.Delivers bytes) (expected sent : Nat) :
    ∃ s', s.readRest expected sent = (taken expected bytes, s') ∧ s'.Delivers (bytes.drop expected) := by
  obtain ⟨s', hread, hs'⟩ := h.read expected sent
  refine ⟨s', ?_, hs'⟩
  unfold Source.readRest
  rw [hread]
  split
  · next heq => exact absurd (congrArg Prod.fst heq) (taken_ne_timeout expected bytes)
  · rfl

end Source

namespace Codec

/-! ## Two codecs on one byte string -/

/-- The codecs stand at the same place of the same byte string. -/
structure Alike (c c' : Codec) : Prop where
  bytes : ∃ bytes, c.source.Delivers bytes ∧ c'.source.Delivers bytes
  pending : c'.pending = c.pending
  maxResponse : c'.maxResponse = c.maxResponse

variable {c c' : Codec}

theorem Alike.undelivered (h : Alike c c') : c.source.undelivered = c'.source.undelivered := by
  obtain ⟨bytes, hc, hc'⟩ := h.bytes
  exact hc.whole.trans hc'.whole.symm

theorem Alike.announced (h : Alike c c') (pending : Option Nat) :
    Alike { c with pending } { c' with pending } :=
  ⟨h.bytes, rfl, h.maxResponse⟩

/-- Two calls have the same result and leave the codecs alike. -/
def EndAlike {α : Type} (o o' : Except TransportError α × Codec) : Prop :=
  ∃ outcome c c', o = (outcome, c) ∧ o' = (outcome, c') ∧ Alike c c'

theorem Alike.ends {α : Type} (h : Alike c c') (outcome : Except TransportError α) :
    EndAlike (outcome, c) (outcome, c') :=
  ⟨outcome, c, c', rfl, rfl, h⟩

theorem Alike.read (h : Alike c c') (expected : Nat) : EndAlike (c.read expected) (c'.read expected) := by
  obtain ⟨bytes, hc, hc'⟩ := h.bytes
  obtain ⟨s, hread, hs⟩ := hc.read expected c.sent
  obtain ⟨s', hread', hs'⟩ := hc'.read expected c'.sent
  simp only [Codec.read, hread, hread']
  exact ⟨_, _, _, rfl, rfl, ⟨_, hs, hs'⟩, h.pending, h.maxResponse⟩

theorem Alike.readRest (h : Alike c c') (expected : Nat) :
    EndAlike (c.readRest expected) (c'.readRest expected) := by
  obtain ⟨bytes, hc, hc'⟩ := h.bytes
  obtain ⟨s, hread, hs⟩ := hc.readRest expected c.sent
  obtain ⟨s', hread', hs'⟩ := hc'.readRest expected c'.sent
  simp only [Codec.readRest, hread, hread']
  exact ⟨_, _, _, rfl, rfl, ⟨_, hs, hs'⟩, h.pending, h.maxResponse⟩

theorem Alike.readCommand (h : Alike c c') : EndAlike c.readCommand c'.readCommand := by
  obtain ⟨outcome, c₁, c₁', hread, hread', h₁⟩ := h.read Frame.headerSize
  simp only [Codec.readCommand, hread, hread']
  cases outcome with
  | error e => exact h₁.ends _
  | ok header =>
    by_cases hone : Frame.headerLength header = 1
    · obtain ⟨outcome, c₂, c₂', hcode, hcode', h₂⟩ := h₁.readRest 1
      simp only [hone, if_true, hcode, hcode']
      cases outcome with
      | error e => exact h₂.ends _
      | ok code => exact h₂.ends _
    · simp only [hone, if_false]
      exact (h₁.announced _).ends _

theorem Alike.readData (h : Alike c c') : EndAlike c.readData c'.readData := by
  simp only [Codec.readData, h.pending]
  cases c.pending with
  | none => exact h.ends _
  | some length =>
    obtain ⟨outcome, c₁, c₁', hread, hread', h₁⟩ := h.readRest length
    simp only [hread, hread']
    cases outcome with
    | error e => exact h₁.ends _
    | ok payload => exact (h₁.announced none).ends _

theorem Alike.readResponse (h : Alike c c') : EndAlike c.readResponse c'.readResponse := by
  obtain ⟨outcome, c₁, c₁', hread, hread', h₁⟩ := h.read Frame.headerSize
  simp only [Codec.readResponse, hread, hread']
  cases outcome with
  | error e => exact h₁.ends _
  | ok header =>
    simp only [h₁.maxResponse]
    by_cases hlong : c₁.maxResponse < Frame.headerLength header
    · simp only [hlong, if_true]
      exact h₁.ends _
    · simp only [hlong, if_false]
      exact h₁.readRest _

/-! ## The calls in sequence -/

def Request.isRead : Request → Bool
  | .readCommand | .readData | .readResponse => true
  | .writeCommand _ | .writeData _ => false

/-- How many bytes are left on the stream after each of the calls. -/
def leftAfter (c : Codec) : List Request → List Nat
  | [] => []
  | request :: requests =>
    (c.perform request).2.source.undelivered.length :: (c.perform request).2.leftAfter requests

theorem EndAlike.map {α β : Type} {o o' : Except TransportError α × Codec} (h : EndAlike o o')
    (f : α → β) : EndAlike (o.1.map f, o.2) (o'.1.map f, o'.2) := by
  obtain ⟨outcome, c, c', rfl, rfl, h⟩ := h
  exact h.ends _

theorem Alike.perform (h : Alike c c') {request : Request} (hr : request.isRead) :
    EndAlike (c.perform request) (c'.perform request) := by
  cases request with
  | readCommand => exact h.readCommand.map Result.incoming
  | readData => exact h.readData.map Result.bytes
  | readResponse => exact h.readResponse.map Result.bytes
  | writeCommand code => cases hr
  | writeData payload => cases hr

theorem Alike.run (h : Alike c c') {requests : List Request} (hr : ∀ r ∈ requests, r.isRead) :
    (c.run requests).1 = (c'.run requests).1 ∧ c.leftAfter requests = c'.leftAfter requests ∧
      Alike (c.run requests).2 (c'.run requests).2 := by
  induction requests generalizing c c' with
  | nil => exact ⟨rfl, rfl, h⟩
  | cons request requests ih =>
    obtain ⟨outcome, c₁, c₁', hstep, hstep', h₁⟩ := h.perform (hr request List.mem_cons_self)
    obtain ⟨hresults, hleft, hend⟩ := ih h₁ fun r hmem => hr r (List.mem_cons_of_mem _ hmem)
    simp only [Codec.run, Codec.leftAfter, hstep, hstep', hresults, hleft, h₁.undelivered]
    exact ⟨trivial, trivial, hend⟩

/-! ## Answers that are too long -/

/-- The next answer is refused for the length that its header declares. -/
def Refuses (c : Codec) : Prop :=
  ∃ length max, c.readResponse.1 = .error (.frameTooLarge length max)

variable {bytes : Bytes}

theorem readResponse_declared {hi lo : UInt8} (h : c.source.Delivers (hi :: lo :: bytes)) :
    ∃ source, source.Delivers bytes ∧
      c.readResponse =
        if c.maxResponse < Frame.headerLength [hi, lo] then
          (.error (.frameTooLarge (Frame.headerLength [hi, lo]) c.maxResponse), { c with source })
        else { c with source }.readRest (Frame.headerLength [hi, lo]) := by
  obtain ⟨source, hread, hs⟩ := h.read Frame.headerSize c.sent
  have htaken : Source.taken Frame.headerSize (hi :: lo :: bytes) = .ok [hi, lo] := by
    simp [Source.taken, Frame.headerSize]
  rw [htaken] at hread
  refine ⟨source, hs, ?_⟩
  simp only [Codec.readResponse, Codec.read, hread]

theorem readResponse_undeclared (h : c.source.Delivers bytes) (hlt : bytes.length < Frame.headerSize) :
    c.readResponse.1 = .error (.connectionClosed Frame.headerSize bytes.length) := by
  obtain ⟨source, hread, -⟩ := h.read Frame.headerSize c.sent
  simp [Codec.readResponse, Codec.read, hread, Source.taken, Nat.not_le.mpr hlt]

theorem refuses_iff (h : c.source.Delivers bytes) :
    c.Refuses ↔
      ∃ hi lo rest, bytes = hi :: lo :: rest ∧ c.maxResponse < Frame.headerLength [hi, lo] := by
  unfold Refuses
  constructor
  · rintro ⟨length, max, hrefused⟩
    match bytes with
    | [] | [_] =>
      rw [readResponse_undeclared h (by simp [Frame.headerSize])] at hrefused
      cases hrefused
    | hi :: lo :: rest =>
      refine ⟨hi, lo, rest, rfl, ?_⟩
      obtain ⟨source, hs, hresponse⟩ := readResponse_declared h
      by_cases hlong : c.maxResponse < Frame.headerLength [hi, lo]
      · exact hlong
      · rw [if_neg hlong] at hresponse
        rw [hresponse] at hrefused
        exact absurd hrefused Source.readRest_ne_tooLarge
  · rintro ⟨hi, lo, rest, rfl, hlong⟩
    obtain ⟨source, -, hresponse⟩ := readResponse_declared h
    rw [hresponse, if_pos hlong]
    exact ⟨_, _, rfl⟩

theorem Refuses.left (hr : c.Refuses) (h : c.source.Delivers bytes) :
    c.readResponse.2.source.undelivered = bytes.drop Frame.headerSize := by
  obtain ⟨hi, lo, rest, rfl, hlong⟩ := (refuses_iff h).mp hr
  obtain ⟨source, hs, hresponse⟩ := readResponse_declared h
  rw [hresponse, if_pos hlong]
  exact hs.whole

/-- An answer is refused exactly for a declared length over the limit, whether its payload is there or not,
and only its header is taken from the stream. -/
structure RefusesByHeader (c : Codec) : Prop where
  exactly : c.Refuses ↔ ∃ hi lo rest, c.source.undelivered = hi :: lo :: rest ∧
    c.maxResponse < Frame.headerLength [hi, lo]
  header : c.Refuses →
    c.source.undelivered.length = Frame.headerSize + c.readResponse.2.source.undelivered.length

theorem refusesByHeader (h : c.source.Delivers bytes) : c.RefusesByHeader := by
  constructor
  · rw [h.whole]
    exact refuses_iff h
  · intro hr
    rw [hr.left h, h.whole]
    obtain ⟨hi, lo, rest, rfl, -⟩ := (refuses_iff h).mp hr
    simp only [List.length_drop, List.length_cons, Frame.headerSize]
    omega

/-- Two deliveries of one byte string cannot be told apart by reading, call after call. -/
theorem run_ignores_delivery {s s' : Source} (hs : s.Delivers bytes) (hs' : s'.Delivers bytes) (c : Codec)
    {requests : List Request} (hreads : ∀ r ∈ requests, r.isRead) :
    ({ c with source := s }.run requests).1 = ({ c with source := s' }.run requests).1 ∧
    { c with source := s }.leftAfter requests = { c with source := s' }.leftAfter requests ∧
    ({ c with source := s }.run requests).2.RefusesByHeader := by
  have halike : Alike { c with source := s } { c with source := s' } := ⟨⟨bytes, hs, hs'⟩, rfl, rfl⟩
  obtain ⟨hresults, hleft, hend⟩ := halike.run hreads
  obtain ⟨left, hdelivers, -⟩ := hend.bytes
  exact ⟨hresults, hleft, refusesByHeader hdelivers⟩

/-- A request for the ATR, an APDU of three bytes and the beginning of a frame of five. -/
def threeFrames : Bytes := [0, 1, 4, 0, 3, 0xA0, 0xB0, 0xC0, 0, 5, 0xD0]

def inPieces : Source :=
  { events := [.chunk [0], .failure ⟨.interrupted, "signal"⟩, .chunk [1], .chunk [4, 0, 3, 0xA0],
      .chunk [0xB0], .failure ⟨.interrupted, "signal"⟩, .failure ⟨.interrupted, "signal"⟩,
      .chunk [0xC0, 0], .chunk [5, 0xD0]] }

theorem inPieces_delivers : inPieces.Delivers threeFrames := by
  exact ⟨by decide, rfl, rfl⟩

theorem run_ignores_delivery_pieces :
    ({ source := inPieces, maxResponse := 4 : Codec }.run [.readCommand, .readCommand, .readData]).1 =
      [.ok (.incoming (.control .getAtr)), .ok (.incoming (.data 3)), .ok (.bytes [0xA0, 0xB0, 0xC0])] ∧
    { source := inPieces, maxResponse := 4 : Codec }.leftAfter [.readCommand, .readCommand, .readData] =
      [8, 6, 3] ∧
    ({ source := inPieces, maxResponse := 4 : Codec }.run
      [.readCommand, .readCommand, .readData]).2.Refuses := by
  have hwhole : Source.Delivers threeFrames { events := [.chunk threeFrames] } := ⟨by decide, rfl, rfl⟩
  have hreads : ∀ r ∈ [Request.readCommand, .readCommand, .readData], r.isRead := by decide
  obtain ⟨hresults, hleft, hrefuses⟩ :=
    run_ignores_delivery inPieces_delivers hwhole { source := {}, maxResponse := 4 } hreads
  exact ⟨hresults.trans rfl, hleft.trans rfl, hrefuses.exactly.mpr ⟨0, 5, [0xD0], rfl, by decide⟩⟩

end Codec
end CardLink
