import CardLink.Proofs.Wire.Announcements
import CardLink.Proofs.Wire.Pauses
import Mathlib.Data.List.Induction

/-!
# Timeouts lose nothing

A deadline that a call meets falls between two frames or inside one. Between frames it is a timeout: nothing was
taken, and the call repeated is the call without that deadline. Inside a frame the call stalls, and says how long the
part is that was interrupted and how much of it was taken.
-/

namespace CardLink

namespace Frame

theorem split_encoded_append {payloads : List Bytes} {part : Bytes}
    (h : ∀ payload ∈ payloads, payload.length ≤ maxPayload) (hpart : Beginning part) :
    split (payloads.flatMap encode ++ part) = (payloads, part) := by
  induction payloads with
  | nil => exact split_beginning hpart
  | cons payload payloads ih =>
    rw [List.flatMap_cons, List.append_assoc, split_encode (h payload List.mem_cons_self),
      ih fun q hq => h q (List.mem_cons_of_mem _ hq)]

theorem Beginning.underway_lt {part : Bytes} (h : Beginning part) : (underway part).2 < (underway part).1 := by
  cases h with
  | nothing => decide
  | halfHeader b => exact Nat.one_lt_two
  | part hi lo rest h => exact h

/-- What a deadline is to a call that meets it where that much of a frame was taken. -/
def deadline (part : Bytes) : TransportError :=
  if part = [] then .timeout else .stalled (underway part).1 (underway part).2

theorem beginning_header {got : Bytes} (h : got.length < headerSize) :
    Beginning got ∧ deadline got = if got.length = 0 then .timeout else .stalled headerSize got.length := by
  match got, h with
  | [], _ => exact ⟨.nothing, rfl⟩
  | [b], _ => exact ⟨.halfHeader b, rfl⟩

theorem beginning_payload {header got : Bytes} (hheader : header.length = headerSize)
    (h : got.length < headerLength header) :
    Beginning (header ++ got) ∧ deadline (header ++ got) = .stalled (headerLength header) got.length := by
  match header, hheader with
  | [hi, lo], _ => exact ⟨.part hi lo got h, rfl⟩

end Frame

namespace Source

variable {e : IoError} {rest : List ReadEvent} {s : Source}

/-- A deadline ahead stays ahead, or reading stops at it. -/
theorem fill_deadline (he : e.kind.isDeadline) (rest : List ReadEvent) (sent : Nat) (atEnd : SourceEnd) (need : Nat)
    (met : List ReadEvent) :
    (∃ bytes stop ahead,
      fill sent atEnd need (met ++ .failure e :: rest) = (bytes, stop, ahead ++ .failure e :: rest)) ∨
    ∃ got, got.length < need ∧ fill sent atEnd need (met ++ .failure e :: rest) = (got, some (.failed e), rest) := by
  induction met generalizing need with
  | nil =>
    cases need with
    | zero => exact Or.inl ⟨[], none, [], by simp [fill]⟩
    | succ need =>
      have hstop : StopsAt atEnd (.failure e :: rest) (.failed e) rest := stopsAt_deadline he rest
      exact Or.inr ⟨[], Nat.succ_pos need, hstop sent need⟩
  | cons event met ih =>
    cases need with
    | zero => exact Or.inl ⟨[], none, event :: met, by simp [fill]⟩
    | succ need =>
      cases event with
      | failure e' =>
        by_cases hi : e'.kind = .interrupted
        · simpa [fill, hi] using ih (need + 1)
        · exact Or.inl ⟨[], some (.failed e'), met, by simp [fill, hi]⟩
      | await frames =>
        by_cases hle : frames ≤ sent
        · simpa [fill, hle] using ih (need + 1)
        · exact Or.inl ⟨[], some .silent, .await frames :: met, by simp [fill, hle]⟩
      | chunk piece =>
        by_cases hnil : piece = []
        · exact Or.inl ⟨[], some .gone, met, by simp [fill, hnil]⟩
        · by_cases hle : piece.length ≤ need + 1
          · rcases ih (need + 1 - piece.length) with ⟨bytes, stop, ahead, hf⟩ | ⟨got, hlt, hf⟩
            · exact Or.inl ⟨piece ++ bytes, stop, ahead, by simp [fill, hnil, hle, hf]⟩
            · refine Or.inr ⟨piece ++ got, ?_, by simp [fill, hnil, hle, hf]⟩
              rw [List.length_append]
              omega
          · exact Or.inl ⟨piece.take (need + 1), none, .chunk (piece.drop (need + 1)) :: met, by simp [fill, hnil, hle]⟩

/-- A deadline ahead stays ahead, or the read took less than it wanted and met it. -/
theorem read_deadline (he : e.kind.isDeadline) {met : List ReadEvent}
    (hs : s.events = met ++ .failure e :: rest) (expected sent : Nat) :
    (∃ ahead, (s.read expected sent).2.events = ahead ++ .failure e :: rest) ∨
      ∃ got, got.length < expected ∧ s.undelivered = got ++ rest.flatMap ReadEvent.bytes ∧
        s.read expected sent = (.error (failure expected got.length (.failed e)), { s with events := rest }) := by
  have hbytes := fill_bytes sent s.atEnd expected s.events
  unfold read undelivered
  rw [hs] at hbytes ⊢
  rcases fill_deadline he rest sent s.atEnd expected met with ⟨bytes, stop, ahead, hf⟩ | ⟨got, hlt, hf⟩
  · refine Or.inl ⟨ahead, ?_⟩
    rw [hf]
    cases stop with
    | none => rfl
    | some stop => rfl
  · rw [hf] at hbytes ⊢
    exact Or.inr ⟨got, hlt, hbytes.symm, rfl⟩

theorem readRest_events (expected sent : Nat) (s : Source) :
    (s.readRest expected sent).2 = (s.read expected sent).2 := by
  unfold readRest
  split
  · next heq => rw [heq]
  · rfl

theorem failure_deadline (he : e.kind.isDeadline) (expected received : Nat) :
    failure expected received (.failed e) = if received = 0 then .timeout else .stalled expected received := by
  by_cases hr : received = 0
  · simp [failure, TransportError.ofIo, he, hr]
  · simp [failure, he, hr]

theorem readRest_deadline (he : e.kind.isDeadline) {met : List ReadEvent}
    (hs : s.events = met ++ .failure e :: rest) (expected sent : Nat) :
    (∃ ahead, (s.readRest expected sent).2.events = ahead ++ .failure e :: rest) ∨
      ∃ got, got.length < expected ∧ s.undelivered = got ++ rest.flatMap ReadEvent.bytes ∧
        s.readRest expected sent = (.error (.stalled expected got.length), { s with events := rest }) := by
  rcases read_deadline he hs expected sent with ⟨ahead, hread⟩ | ⟨got, hlt, hbytes, hread⟩
  · exact Or.inl ⟨ahead, by rw [readRest_events, hread]⟩
  · refine Or.inr ⟨got, hlt, hbytes, ?_⟩
    rw [failure_deadline he] at hread
    unfold readRest
    rw [hread]
    by_cases hgot : got.length = 0
    · rw [if_pos hgot, hgot]
    · rw [if_neg hgot]

theorem header_deadline (he : e.kind.isDeadline) {met : List ReadEvent}
    (hs : s.events = met ++ .failure e :: rest) (sent : Nat) :
    (∃ ahead, (s.read Frame.headerSize sent).2.events = ahead ++ .failure e :: rest) ∨
      ∃ part, Frame.Beginning part ∧ s.undelivered = part ++ rest.flatMap ReadEvent.bytes ∧
        s.read Frame.headerSize sent = (.error (Frame.deadline part), { s with events := rest }) := by
  refine (read_deadline he hs Frame.headerSize sent).imp id ?_
  rintro ⟨got, hlt, hund, hr⟩
  obtain ⟨hpart, hdeadline⟩ := Frame.beginning_header hlt
  exact ⟨got, hpart, hund, by rw [hr, failure_deadline he, hdeadline]⟩

theorem payload_deadline (he : e.kind.isDeadline) {met : List ReadEvent}
    (hs : s.events = met ++ .failure e :: rest) {header : Bytes} (hheader : header.length = Frame.headerSize)
    {length : Nat} (hlength : Frame.headerLength header = length) (sent : Nat) :
    (∃ ahead, (s.readRest length sent).2.events = ahead ++ .failure e :: rest) ∨
      ∃ part, Frame.Beginning part ∧ header ++ s.undelivered = part ++ rest.flatMap ReadEvent.bytes ∧
        s.readRest length sent = (.error (Frame.deadline part), { s with events := rest }) := by
  subst hlength
  refine (readRest_deadline he hs _ sent).imp id ?_
  rintro ⟨got, hlt, hund, hr⟩
  obtain ⟨hpart, hdeadline⟩ := Frame.beginning_payload hheader hlt
  exact ⟨header ++ got, hpart, by rw [hund, List.append_assoc], by rw [hr, hdeadline]⟩

/-- The script waits for nothing that is written, and at its end the stream ends. -/
structure Unprompted (s : Source) : Prop where
  events : ∀ frames, .await frames ∉ s.events
  ends : s.atEnd = .eof

theorem Unprompted.read (h : s.Unprompted) (expected sent : Nat) : (s.read expected sent).2.Unprompted := by
  have hleft : ∀ event ∈ (fill sent s.atEnd expected s.events).2.2, ∀ frames, event ≠ .await frames := by
    apply fill_left
    · intro piece n _ _ frames
      simp
    · rintro event hevent frames rfl
      exact h.events frames hevent
  have hevents : ∀ frames, .await frames ∉ (fill sent s.atEnd expected s.events).2.2 :=
    fun frames hmem => hleft _ hmem frames rfl
  unfold Source.read
  split
  · next heq => exact ⟨by rwa [heq] at hevents, h.ends⟩
  · next heq => exact ⟨by rwa [heq] at hevents, h.ends⟩

/-- A read is tried again after each interruption. -/
theorem fill_interrupted {skipped : List ReadEvent}
    (hskipped : ∀ event ∈ skipped, ∃ e : IoError, e.kind = .interrupted ∧ event = .failure e)
    (sent : Nat) (atEnd : SourceEnd) (need : Nat) (rest : List ReadEvent) :
    fill sent atEnd (need + 1) (skipped ++ rest) = fill sent atEnd (need + 1) rest := by
  induction skipped with
  | nil => rfl
  | cons event skipped ih =>
    obtain ⟨e, hkind, rfl⟩ := hskipped _ List.mem_cons_self
    rw [← ih fun event hevent => hskipped event (List.mem_cons_of_mem _ hevent)]
    simp [fill, hkind]

theorem read_interrupted {skipped : List ReadEvent}
    (hskipped : ∀ event ∈ skipped, ∃ e : IoError, e.kind = .interrupted ∧ event = .failure e)
    (need sent : Nat) (rest : List ReadEvent) (atEnd : SourceEnd) :
    Source.read (need + 1) sent ⟨skipped ++ rest, atEnd⟩ = Source.read (need + 1) sent ⟨rest, atEnd⟩ := by
  unfold Source.read
  rw [fill_interrupted hskipped]

/-- Reading that stopped without a byte has met the end, or a failure after nothing but interruptions. -/
theorem fill_nothing {sent need : Nat} {events left : List ReadEvent} {stop : ReadStop}
    (hevents : ∀ frames, .await frames ∉ events) (h : fill sent .eof (need + 1) events = ([], some stop, left)) :
    stop = .gone ∨ ∃ skipped e, stop = .failed e ∧
      (∀ event ∈ skipped, ∃ e : IoError, e.kind = .interrupted ∧ event = .failure e) ∧
      events = skipped ++ .failure e :: left := by
  induction events with
  | nil =>
    simp only [fill, SourceEnd.stop, Prod.mk.injEq, Option.some.injEq, true_and] at h
    exact Or.inl h.1.symm
  | cons event events ih =>
    have hrest : ∀ frames, .await frames ∉ events :=
      fun frames hmem => hevents frames (List.mem_cons_of_mem _ hmem)
    cases event with
    | await frames => exact absurd List.mem_cons_self (hevents frames)
    | failure e' =>
      by_cases hi : e'.kind = .interrupted
      · refine (ih hrest (by simpa [fill, hi] using h)).imp id ?_
        rintro ⟨skipped, e, hstop, hskipped, rfl⟩
        refine ⟨.failure e' :: skipped, e, hstop, ?_, rfl⟩
        intro event hevent
        rcases List.mem_cons.mp hevent with rfl | hevent
        · exact ⟨e', hi, rfl⟩
        · exact hskipped event hevent
      · simp only [fill, hi, if_false, Prod.mk.injEq, Option.some.injEq, true_and] at h
        obtain ⟨rfl, rfl⟩ := h
        exact Or.inr ⟨[], e', rfl, by simp, rfl⟩
    | chunk piece =>
      by_cases hnil : piece = []
      · simp only [fill, hnil, if_pos, Prod.mk.injEq, Option.some.injEq, true_and] at h
        exact Or.inl h.1.symm
      · by_cases hle : piece.length ≤ need + 1
        · simp [fill, hnil, hle] at h
        · simp [fill, hnil, hle] at h

/-- A read that times out has met a deadline before it took anything, and has used up the script as far as that. -/
theorem Unprompted.read_timeout (h : s.Unprompted) {need sent : Nat} {s' : Source}
    (hread : s.read (need + 1) sent = (.error .timeout, s')) :
    ∃ skipped e rest, e.kind.isDeadline ∧
      (∀ event ∈ skipped, ∃ e : IoError, e.kind = .interrupted ∧ event = .failure e) ∧
      s.events = skipped ++ .failure e :: rest ∧ s' = { s with events := rest } := by
  unfold Source.read at hread
  split at hread
  · simp at hread
  · next got stop left hf =>
    simp only [Prod.mk.injEq, Except.error.injEq] at hread
    obtain ⟨hfail, rfl⟩ := hread
    obtain rfl : got = [] := failure_timeout hfail
    rw [h.ends] at hf
    rcases fill_nothing h.events hf with rfl | ⟨skipped, e, rfl, hskipped, hevents⟩
    · simp [failure] at hfail
    · have he : e.kind.isDeadline := by
        by_cases he : e.kind.isDeadline
        · exact he
        · simp [failure, TransportError.ofIo, he] at hfail
      exact ⟨skipped, e, left, he, hskipped, hevents, rfl⟩

end Source

namespace Codec

/-! ## Reading frame after frame -/

/-- The call after an announcement reads the payload. -/
def PayloadsFollow (h : List Event) : Prop :=
  ∀ before length next after, h = before ++ announcement length :: next :: after → next.1 = .readData

/-- No call has failed, but for timeouts. -/
def Going (h : List Event) : Prop := ∀ event ∈ h, ∀ e, event.2 = .error e → e = .timeout

variable {c c' : Codec} {request : Request}

theorem run_concat (requests : List Request) (request : Request) (c : Codec) :
    (c.run (requests ++ [request])).2 = ((c.run requests).2.perform request).2 :=
  run_append requests [request] c

theorem history_concat (requests : List Request) (request : Request) (c : Codec) :
    c.history (requests ++ [request]) =
      c.history requests ++ [(request, ((c.run requests).2.perform request).1)] :=
  history_append requests [request] c

theorem readData_ne_timeout (c : Codec) : c.readData.1 ≠ .error .timeout := by
  rcases hp : c.pending with _ | n
  · simp [readData_none hp]
  · have hne := Source.readRest_ne_timeout n c.sent c.source
    rw [readData_some hp]
    rcases hr : c.source.readRest n c.sent with ⟨e | payload, source⟩
    · simpa [hr] using hne
    · simp

/-- What no read changes about a source, no call changes. -/
theorem perform_source {P : Source → Prop} (hread : ∀ s expected sent, P s → P (Source.read expected sent s).2)
    (request : Request) (c : Codec) (h : P c.source) : P (c.perform request).2.source := by
  have hrest : ∀ s expected sent, P s → P (Source.readRest expected sent s).2 := by
    intro s expected sent hs
    rw [Source.readRest_events]
    exact hread s expected sent hs
  have hheader := hread c.source Frame.headerSize c.sent h
  cases request with
  | readCommand =>
    simp only [perform, readCommand, read, readRest]
    rcases hr : c.source.read Frame.headerSize c.sent with ⟨e | header, source⟩
    · rwa [hr] at hheader
    · rw [hr] at hheader
      have hcode := hrest source 1 c.sent hheader
      by_cases hone : Frame.headerLength header = 1
      · simp only [hone, if_pos]
        rcases hr' : source.readRest 1 c.sent with ⟨e | code, source'⟩ <;> rwa [hr'] at hcode
      · simp only [hone, if_false]
        exact hheader
  | readData =>
    rcases hp : c.pending with _ | n
    · simp only [perform, readData_none hp]
      exact h
    · have hpayload := hrest c.source n c.sent h
      simp only [perform, readData_some hp]
      rcases hr : c.source.readRest n c.sent with ⟨e | payload, source⟩ <;> rwa [hr] at hpayload
  | readResponse =>
    simp only [perform, readResponse, read, readRest]
    rcases hr : c.source.read Frame.headerSize c.sent with ⟨e | header, source⟩
    · rwa [hr] at hheader
    · rw [hr] at hheader
      have hpayload := hrest source (Frame.headerLength header) c.sent hheader
      by_cases hmax : c.maxResponse < Frame.headerLength header
      · simp only [hmax, if_pos]
        exact hheader
      · simp only [hmax, if_false]
        exact hpayload
  | writeCommand code =>
    have hsource : (c.perform (.writeCommand code)).2.source = c.source := writeFrame_source _ c
    rwa [hsource]
  | writeData payload =>
    have hsource : (c.perform (.writeData payload)).2.source = c.source := writeData_source payload c
    rwa [hsource]

theorem run_source {P : Source → Prop} (hread : ∀ s expected sent, P s → P (Source.read expected sent s).2)
    (requests : List Request) (c : Codec) (h : P c.source) : P (c.run requests).2.source := by
  induction requests generalizing c with
  | nil => exact h
  | cons request requests ih => exact ih _ (perform_source hread request c h)

/-- The bytes still to come, from the start of the frame that is announced. -/
def unread (c : Codec) : Bytes :=
  match c.pending with
  | none => c.source.undelivered
  | some length => Frame.header length ++ c.source.undelivered

theorem unread_none (hp : c.pending = none) : c.unread = c.source.undelivered := by
  rw [unread, hp]

theorem unread_some {n : Nat} (hp : c.pending = some n) :
    c.unread = Frame.header n ++ c.source.undelivered := by
  rw [unread, hp]

/-- The announced length is one that a header can describe, and the payload is what is read next. -/
def Ready (request : Request) (c : Codec) : Prop :=
  ∀ n, c.pending = some n → request = .readData ∧ n ≤ Frame.maxPayload

theorem Ready.pending_none (h : Ready request c) (hne : request ≠ .readData) : c.pending = none := by
  rcases hp : c.pending with _ | n
  · rfl
  · exact absurd (h n hp).1 hne

/-- A call that succeeds or times out takes whole frames, where an announced frame counts as not taken yet. -/
theorem perform_unread (hread : request.isRead) (hready : Ready request c)
    (hgoing : ∀ e, (c.perform request).1 = .error e → e = .timeout) :
    (∃ payloads : List Bytes, (∀ payload ∈ payloads, payload.length ≤ Frame.maxPayload) ∧
      c.unread = payloads.flatMap Frame.encode ++ (c.perform request).2.unread) ∧
    ∀ n, (c.perform request).2.pending = some n → n ≤ Frame.maxPayload := by
  cases request with
  | readCommand =>
    have hp := hready.pending_none (by simp)
    rcases hr : c.readCommand with ⟨e | ⟨code | n⟩, c'⟩
    · have htimeout := hgoing e (by simp [perform, hr, Except.map])
      subst htimeout
      obtain ⟨source, rfl, hund⟩ := readCommand_timeout hr
      simp only [perform, hr]
      exact ⟨⟨[], by simp, by simp [unread, hp, hund]⟩, by simp [hp]⟩
    · obtain ⟨b, source, -, rfl, hund⟩ := readCommand_control_ok hr
      simp only [perform, hr]
      exact ⟨⟨[[b]], by simp [Frame.maxPayload], by simp [unread, hp, hund]⟩, by simp [hp]⟩
    · obtain ⟨-, hmax, source, rfl, hund⟩ := readCommand_data_ok hr
      simp only [perform, hr]
      exact ⟨⟨[], by simp, by simp [unread, hp, hund]⟩, by simp [hmax]⟩
  | readData =>
    rcases hr : c.readData with ⟨e | payload, c'⟩
    · have htimeout := hgoing e (by simp [perform, hr, Except.map])
      exact absurd (by rw [hr, htimeout]) (readData_ne_timeout c)
    · obtain ⟨hp, source, rfl, hund⟩ := readData_ok hr
      simp only [perform, hr]
      have hmax := (hready _ hp).2
      exact ⟨⟨[payload], by simpa using hmax, by simp [unread, hp, hund, Frame.encode]⟩, by simp⟩
  | readResponse =>
    have hp := hready.pending_none (by simp)
    have hpending := (readResponse_pending c).trans hp
    rcases hr : c.readResponse with ⟨e | raw, c'⟩
    · have htimeout := hgoing e (by simp [perform, hr, Except.map])
      subst htimeout
      have hp' : c'.pending = none := by rwa [hr] at hpending
      have hund := (readResponse_timeout hr).2
      simp only [perform, hr]
      exact ⟨⟨[], by simp, by simp [unread, hp, hp', hund]⟩, by simp [hp']⟩
    · obtain ⟨-, hmax, hund⟩ := readResponse_ok hr
      have hp' : c'.pending = none := by rwa [hr] at hpending
      simp only [perform, hr]
      exact ⟨⟨[raw], by simpa using hmax, by simp [unread, hp, hp', hund]⟩, by simp [hp']⟩
  | writeCommand code => cases hread
  | writeData payload => cases hread

/-- A deadline ahead stays ahead, or the call met it and says what it did to the frame that is under way. -/
theorem perform_deadline {e : IoError} {met rest : List ReadEvent} (he : e.kind.isDeadline)
    (hs : c.source.events = met ++ .failure e :: rest) (hread : request.isRead) (hready : Ready request c) :
    (∃ ahead, (c.perform request).2.source.events = ahead ++ .failure e :: rest) ∨
      ((c.perform request).2.source.events = rest ∧
        ∃ part, Frame.Beginning part ∧ c.unread = part ++ rest.flatMap ReadEvent.bytes ∧
          (c.perform request).1 = .error (Frame.deadline part)) := by
  have hheader := Source.header_deadline he hs c.sent
  cases request with
  | readCommand =>
    rw [unread_none (hready.pending_none (by simp))]
    simp only [perform, readCommand, read, readRest]
    rcases hr : c.source.read Frame.headerSize c.sent with ⟨e' | header, source⟩
    · rw [hr] at hheader
      refine hheader.imp id ?_
      rintro ⟨part, hpart, hund, hmet⟩
      cases hmet
      exact ⟨rfl, part, hpart, hund, rfl⟩
    · obtain ⟨hlen, hund⟩ := Source.read_ok hr
      have hahead : ∃ ahead, source.events = ahead ++ .failure e :: rest := by simpa [hr] using hheader
      by_cases hone : Frame.headerLength header = 1
      · simp only [hone, if_pos]
        obtain ⟨ahead, hahead⟩ := hahead
        rw [hund]
        rcases Source.payload_deadline he hahead hlen hone c.sent with hleft | ⟨part, hpart, hund', hr'⟩
        · rcases hr' : source.readRest 1 c.sent with ⟨e' | code, source'⟩ <;> exact Or.inl (by rwa [hr'] at hleft)
        · rw [hr']
          exact Or.inr ⟨rfl, part, hpart, hund', rfl⟩
      · simp only [hone, if_false]
        exact Or.inl hahead
  | readData =>
    rcases hp : c.pending with _ | n
    · simp only [perform, readData_none hp]
      exact Or.inl ⟨met, hs⟩
    · have hlength := Frame.headerLength_header (hready n hp).2
      rw [unread_some hp]
      simp only [perform, readData_some hp]
      rcases Source.payload_deadline he hs rfl hlength c.sent with hleft | ⟨part, hpart, hund, hr⟩
      · rcases hr : c.source.readRest n c.sent with ⟨e' | payload, source⟩ <;> exact Or.inl (by rwa [hr] at hleft)
      · rw [hr]
        exact Or.inr ⟨rfl, part, hpart, hund, rfl⟩
  | readResponse =>
    rw [unread_none (hready.pending_none (by simp))]
    simp only [perform, readResponse, read, readRest]
    rcases hr : c.source.read Frame.headerSize c.sent with ⟨e' | header, source⟩
    · rw [hr] at hheader
      refine hheader.imp id ?_
      rintro ⟨part, hpart, hund, hmet⟩
      cases hmet
      exact ⟨rfl, part, hpart, hund, rfl⟩
    · obtain ⟨hlen, hund⟩ := Source.read_ok hr
      have hahead : ∃ ahead, source.events = ahead ++ .failure e :: rest := by simpa [hr] using hheader
      by_cases hmax : c.maxResponse < Frame.headerLength header
      · simp only [hmax, if_pos]
        exact Or.inl hahead
      · simp only [hmax, if_false]
        obtain ⟨ahead, hahead⟩ := hahead
        rw [hund]
        rcases Source.payload_deadline he hahead hlen rfl c.sent with hleft | ⟨part, hpart, hund', hr'⟩
        · exact Or.inl hleft
        · rw [hr']
          exact Or.inr ⟨rfl, part, hpart, hund', rfl⟩
  | writeCommand code => cases hread
  | writeData payload => cases hread

/-- A call that starts with a frame reads a header before all else. -/
theorem perform_of_header {s s' : Source} (hframe : request = .readCommand ∨ request = .readResponse)
    (h : s.read Frame.headerSize c.sent = s'.read Frame.headerSize c.sent) :
    Codec.perform request { c with source := s } = Codec.perform request { c with source := s' } := by
  rcases hframe with rfl | rfl
  · simp only [perform, readCommand, read, h]
  · simp only [perform, readResponse, read, h]

/-- Only the read of a header times out. -/
theorem header_of_timeout (hread : request.isRead) (h : (c.perform request).1 = .error .timeout) :
    (request = .readCommand ∨ request = .readResponse) ∧
      ∃ source, c.source.read Frame.headerSize c.sent = (.error .timeout, source) ∧
        (c.perform request).2 = { c with source } := by
  cases request with
  | readCommand =>
    refine ⟨Or.inl rfl, ?_⟩
    simp only [perform, readCommand, read, readRest] at h ⊢
    rcases hr : c.source.read Frame.headerSize c.sent with ⟨e | header, source⟩
    · simp only [hr, Except.map, Except.error.injEq] at h ⊢
      exact ⟨source, by rw [h], rfl⟩
    · simp only [hr] at h
      by_cases hone : Frame.headerLength header = 1
      · have hne := Source.readRest_ne_timeout 1 c.sent source
        simp only [hone, if_pos] at h
        rcases hr' : source.readRest 1 c.sent with ⟨e | code, source'⟩
        · simp only [hr', Except.map, Except.error.injEq] at h
          exact absurd (by rw [hr', h]) hne
        · simp [hr', Except.map] at h
      · simp [hone, Except.map] at h
  | readData =>
    have hne := readData_ne_timeout c
    rcases hr : c.readData.1 with e | payload
    · simp only [perform, hr, Except.map, Except.error.injEq] at h
      exact absurd (by rw [hr, h]) hne
    · simp [perform, hr, Except.map] at h
  | readResponse =>
    refine ⟨Or.inr rfl, ?_⟩
    simp only [perform, readResponse, read, readRest] at h ⊢
    rcases hr : c.source.read Frame.headerSize c.sent with ⟨e | header, source⟩
    · simp only [hr, Except.map, Except.error.injEq] at h ⊢
      exact ⟨source, by rw [h], rfl⟩
    · simp only [hr] at h
      by_cases hmax : c.maxResponse < Frame.headerLength header
      · simp [hmax, Except.map] at h
      · have hne := Source.readRest_ne_timeout (Frame.headerLength header) c.sent source
        simp only [hmax, if_false] at h
        rcases hr' : source.readRest (Frame.headerLength header) c.sent with ⟨e | raw, source'⟩
        · simp only [hr', Except.map, Except.error.injEq] at h
          exact absurd (by rw [hr', h]) hne
        · simp [hr', Except.map] at h
  | writeCommand code => cases hread
  | writeData payload => cases hread

/-- A timeout has met a deadline before it took anything, and the call repeated is the call without that deadline. -/
theorem perform_timeout (hscript : c.source.Unprompted) (hread : request.isRead)
    (h : (c.perform request).1 = .error .timeout) :
    ∃ skipped e rest, e.kind.isDeadline ∧
      (∀ event ∈ skipped, ∃ e : IoError, e.kind = .interrupted ∧ event = .failure e) ∧
      c.source.events = skipped ++ .failure e :: rest ∧
      (c.perform request).2 = { c with source := { c.source with events := rest } } ∧
      (c.perform request).2.perform request =
        Codec.perform request { c with source := { c.source with events := skipped ++ rest } } := by
  obtain ⟨hframe, source, hr, hleft⟩ := header_of_timeout hread h
  obtain ⟨skipped, e, rest, he, hskipped, hevents, rfl⟩ := hscript.read_timeout hr
  refine ⟨skipped, e, rest, he, hskipped, hevents, hleft, ?_⟩
  rw [hleft]
  apply perform_of_header hframe
  exact (Source.read_interrupted hskipped 1 c.sent rest c.source.atEnd).symm

/-! ## A run of reads -/

theorem Going.concat {h : List Event} {event : Event} (hgoing : Going (h ++ [event])) :
    Going h ∧ ∀ e, event.2 = .error e → e = .timeout :=
  ⟨fun event' hmem => hgoing event' (List.mem_append_left _ hmem), hgoing event (by simp)⟩

theorem PayloadsFollow.concat {h : List Event} {event : Event} (hfollow : PayloadsFollow (h ++ [event])) :
    PayloadsFollow h := by
  rintro before n next after rfl
  exact hfollow before n next (after ++ [event]) (by simp)

theorem history_ne_timeout (requests : List Request) (c : Codec) :
    ∀ event ∈ c.history requests, event.1 = .readData → event.2 ≠ .error .timeout := by
  induction requests generalizing c with
  | nil => simp [history]
  | cons request requests ih =>
    intro event hmem hdata
    rw [history_cons] at hmem
    rcases List.mem_cons.mp hmem with rfl | hmem
    · obtain rfl : request = .readData := hdata
      intro h
      have hframe := (header_of_timeout rfl h).1
      simp at hframe
    · exact ih _ event hmem hdata

/-- While calls succeed or time out, the payload of an announced frame is what is read next. -/
theorem ready_of_follow (hfresh : c.pending = none) {before : List Request}
    (hfollow : PayloadsFollow (c.history (before ++ [request]))) (hgoing : Going (c.history before)) {n : Nat}
    (hp : (c.run before).2.pending = some n) : request = .readData := by
  rw [history_concat] at hfollow
  obtain ⟨earlier, after, hhistory, hidle⟩ := (run_pending_fresh hfresh before n).mp hp
  cases after with
  | nil => exact hfollow earlier n (request, _) [] (by rw [hhistory, List.append_assoc]; rfl)
  | cons event after =>
    have hmem : event ∈ c.history before := by
      rw [hhistory]
      simp
    have hdata : event.1 = .readData := hfollow.concat earlier n event after hhistory
    obtain ⟨request', result⟩ := event
    obtain rfl : request' = .readData := hdata
    cases result with
    | ok r => exact absurd ⟨r, rfl⟩ (hidle _ List.mem_cons_self).2
    | error e =>
      have htimeout : e = .timeout := hgoing _ hmem e rfl
      exact absurd (by rw [htimeout]) (history_ne_timeout before c _ hmem rfl)

/-- Calls that succeed or time out have taken whole frames, where an announced frame counts as not taken yet. -/
theorem run_unread (hfresh : c.pending = none) {requests : List Request} (hreads : ∀ r ∈ requests, r.isRead)
    (hfollow : PayloadsFollow (c.history requests)) (hgoing : Going (c.history requests)) :
    (∃ payloads : List Bytes, (∀ payload ∈ payloads, payload.length ≤ Frame.maxPayload) ∧
      c.unread = payloads.flatMap Frame.encode ++ (c.run requests).2.unread) ∧
    ∀ n, (c.run requests).2.pending = some n → n ≤ Frame.maxPayload := by
  induction requests using List.reverseRecOn with
  | nil => exact ⟨⟨[], by simp, rfl⟩, by simp [run, hfresh]⟩
  | append_singleton before request ih =>
    have hgoing' := hgoing
    rw [history_concat] at hgoing'
    have hfollow' := hfollow
    rw [history_concat] at hfollow'
    obtain ⟨⟨payloads, hshort, hunread⟩, hbound⟩ :=
      ih (fun r hr => hreads r (List.mem_append_left _ hr)) hfollow'.concat hgoing'.concat.1
    have hready : Ready request (c.run before).2 :=
      fun n hp => ⟨ready_of_follow hfresh hfollow hgoing'.concat.1 hp, hbound n hp⟩
    obtain ⟨⟨more, hshort', hunread'⟩, hbound'⟩ :=
      perform_unread (hreads request (by simp)) hready hgoing'.concat.2
    rw [run_concat]
    refine ⟨⟨payloads ++ more, ?_, ?_⟩, hbound'⟩
    · intro payload hmem
      rcases List.mem_append.mp hmem with hmem | hmem
      · exact hshort payload hmem
      · exact hshort' payload hmem
    · rw [hunread, hunread', List.flatMap_append, List.append_assoc]

/-- Reads of frame after frame, each announced payload read next, and no failure yet but timeouts. What is found of a
call then: if it times out it has met a deadline after nothing but interruptions, has used up the script just as far
as that and changed nothing else, and repeated it is the call without that deadline. And each deadline of the script
is still ahead after it, or it met that deadline and was told so: with a timeout where all bytes taken are whole
frames, and else with the length of the part of a frame that was interrupted and the number of its bytes taken. -/
theorem timeouts_lose_nothing (hfresh : c.pending = none) (hscript : c.source.Unprompted) {before : List Request}
    (hreads : ∀ r ∈ before ++ [request], r.isRead) (hfollow : PayloadsFollow (c.history (before ++ [request])))
    (hgoing : Going (c.history before)) :
    let c₁ := (c.run before).2
    let result := (c₁.perform request).1
    let c₂ := (c₁.perform request).2
    (result = .error .timeout →
      ∃ skipped e rest, e.kind.isDeadline ∧
        (∀ event ∈ skipped, ∃ e : IoError, e.kind = .interrupted ∧ event = .failure e) ∧
        c₁.source.events = skipped ++ .failure e :: rest ∧
        c₂ = { c₁ with source := { c₁.source with events := rest } } ∧
        c₂.perform request = Codec.perform request { c₁ with source := { c₁.source with events := skipped ++ rest } }) ∧
    ∀ e met rest, e.kind.isDeadline → c₁.source.events = met ++ .failure e :: rest →
      (∃ ahead, c₂.source.events = ahead ++ .failure e :: rest) ∨
      (c₂.source.events = rest ∧
        ∃ taken, c.source.undelivered = taken ++ c₂.source.undelivered ∧
          let part := (Frame.split taken).2
          (part = [] → result = .error .timeout) ∧
          (part ≠ [] → ∃ expected received, Frame.underway part = (expected, received) ∧
            result = .error (.stalled expected received) ∧ received < expected)) := by
  intro c₁ result c₂
  have hread : request.isRead := hreads request (by simp)
  have hreads' : ∀ r ∈ before, r.isRead := fun r hr => hreads r (List.mem_append_left _ hr)
  have hfollow' : PayloadsFollow (c.history before) := by
    rw [history_concat] at hfollow
    exact hfollow.concat
  obtain ⟨⟨payloads, hshort, hunread⟩, hbound⟩ := run_unread hfresh hreads' hfollow' hgoing
  have hready : Ready request c₁ := fun n hp => ⟨ready_of_follow hfresh hfollow hgoing hp, hbound n hp⟩
  have hscript' : c₁.source.Unprompted := run_source (fun s expected sent h => h.read expected sent) before c hscript
  refine ⟨fun htimeout => perform_timeout hscript' hread htimeout, ?_⟩
  intro e met rest he hs
  refine (perform_deadline he hs hread hready).imp id ?_
  rintro ⟨hleft, part, hpart, hund, hresult⟩
  have htaken : c.source.undelivered = (payloads.flatMap Frame.encode ++ part) ++ c₂.source.undelivered := by
    rw [← unread_none hfresh, hunread, hund, List.append_assoc, Source.undelivered, hleft]
  refine ⟨hleft, _, htaken, ?_⟩
  rw [Frame.split_encoded_append hshort hpart]
  refine ⟨fun hnil => ?_, fun hne => ⟨_, _, rfl, ?_, hpart.underway_lt⟩⟩
  · rw [Frame.deadline, if_pos hnil] at hresult
    exact hresult
  · rw [Frame.deadline, if_neg hne] at hresult
    exact hresult

/-- A first call times out, and the call repeated takes a header before the next deadline. -/
theorem timeouts_lose_nothing_code :
    let c : Codec := { source := { events := [.failure { kind := .interrupted }, .failure { kind := .wouldBlock },
      .chunk [0], .chunk [1], .failure { kind := .timedOut }, .chunk [4]] } }
    c.history [.readCommand] = [(.readCommand, .error .timeout)] ∧
      ((c.run [.readCommand]).2.perform .readCommand).1 = .error (.stalled 1 0) := by
  intro c
  have hfirst : c.history [.readCommand] = [(.readCommand, .error .timeout)] := rfl
  have hboth : c.history ([.readCommand] ++ [.readCommand]) =
      [(.readCommand, .error .timeout), (.readCommand, .error (.stalled 1 0))] := rfl
  have hfollow : PayloadsFollow (c.history ([.readCommand] ++ [.readCommand])) := by
    rw [hboth]
    rintro (_ | ⟨first, _ | ⟨second, before⟩⟩) n next after heq <;> simp [announcement] at heq
  have hgoing : Going (c.history [.readCommand]) := by
    rw [hfirst]
    simp [Going]
  have hscript : c.source.Unprompted := ⟨by simp [c], rfl⟩
  obtain ⟨-, hmeets⟩ := timeouts_lose_nothing (c := c) rfl hscript (by decide) hfollow hgoing
  rcases hmeets { kind := .timedOut } [.chunk [0], .chunk [1]] [.chunk [4]] rfl rfl with ⟨ahead, hahead⟩ | hmet
  · have hleft : [ReadEvent.chunk [4]] = ahead ++ [.failure { kind := .timedOut }, .chunk [4]] := hahead
    have hlength := congrArg List.length hleft
    simp at hlength
  · obtain ⟨-, taken, htaken, -, hstalled⟩ := hmet
    have hbytes : [0, 1] ++ [4] = taken ++ [4] := htaken
    obtain rfl := List.append_cancel_right hbytes
    have hsplit : Frame.split [0, 1] = ([], [0, 1]) := Frame.split_beginning (.part 0 1 [] (by decide))
    rw [hsplit] at hstalled
    obtain ⟨expected, received, hunderway, hresult, -⟩ := hstalled (by simp)
    cases hunderway
    exact ⟨hfirst, hresult⟩

end Codec
end CardLink
