import CardLink.Proofs.VirtualCard.Cancellation
import CardLink.Proofs.Wire.WholeFrames

/-!
# Only whole answers are counted

Nothing that a service puts on its stream is torn or out of order: what the stream took is the frames of the
answers that were written, and at the end at most a part of the frame at which the stream failed. The count of
a service is the number of answers to APDUs among those that were written whole and flushed. An answer for which
the stream fails, also when only the flush does, ends the service and is not counted.
-/

namespace CardLink

namespace VirtualCard

open Codec (Event Request Result Unbroken Whole)

/-- A frame that asks for an answer, the answer to it, and what came of writing that. -/
structure Reply where
  frame : Bytes
  answer : Bytes
  outcome : Except TransportError Result

namespace Reply

def request (r : Reply) : Request := .writeData r.answer

def event (r : Reply) : Event := (r.request, r.outcome)

/-- An answer to an APDU that was written whole and flushed. -/
def counts (r : Reply) : Bool := r.frame.length ≠ 1 && r.outcome.toBool

end Reply

/-- Writing these replies, one after the other and nothing else, has these outcomes and leaves that sink. -/
structure Writes (replies : List Reply) (c : Codec) (sink : Sink) : Prop where
  outcomes : c.history (replies.map Reply.request) = replies.map Reply.event
  sink : (c.run (replies.map Reply.request)).2.sink = sink

namespace Writes

variable {replies : List Reply} {c c' : Codec} {sink : Sink}

theorem nil (c : Codec) : Writes [] c c.sink := ⟨rfl, rfl⟩

theorem cons {reply : Reply} {result : Except TransportError Unit}
    (hwrite : c.writeData reply.answer = (result, c')) (hresult : reply.outcome = result.map fun _ => .done)
    (h : Writes replies c' sink) : Writes (reply :: replies) c sink := by
  have hperform : c.perform reply.request = (reply.outcome, c') := by
    rw [hresult]
    simp only [Codec.perform, Reply.request, hwrite]
  constructor
  · rw [List.map_cons, Codec.history_cons, hperform, h.outcomes]
    rfl
  · rw [← h.sink]
    change ((c.perform reply.request).2.run _).2.sink = _
    rw [hperform]

/-- What the reader of a codec is does not matter to what is written. -/
theorem of_sink (hsink : c.sink = c'.sink) (h : Writes replies c' sink) : Writes replies c sink := by
  induction replies generalizing c c' with
  | nil => exact ⟨rfl, hsink.trans h.sink⟩
  | cons reply replies ih =>
    obtain ⟨hresult, hsink'⟩ := Codec.writeData_sink hsink reply.answer
    obtain ⟨houtcomes, hend⟩ := h
    rw [List.map_cons, Codec.history_cons, List.map_cons, List.cons.injEq] at houtcomes
    have hevent : (reply.request, (c'.perform reply.request).1) = reply.event := houtcomes.1
    rcases hwrite : c.writeData reply.answer with ⟨result, c''⟩
    rw [hwrite] at hresult hsink'
    apply cons hwrite
    · rw [show result = (c'.writeData reply.answer).1 from hresult]
      exact (congrArg Prod.snd hevent).symm
    · exact ih hsink' ⟨houtcomes.2, hend⟩

end Writes

namespace Service

variable {κ W : Type} [CardChannel W κ]

/-- A response that ends a service counts nothing: it has written nothing, or has failed to write the answer. -/
def EndsOn (payload : Bytes) (s : Service κ W) (ended : ServiceEnd) (s' : Service κ W) : Prop :=
  s'.served = s.served ∧
    (s'.codec.sink = s.codec.sink ∨
      Frame.wantsAnswer payload = true ∧
        ∃ answer e, s.codec.writeData answer = (.error e, s'.codec) ∧ ended = .failed (.transport e))

theorem serveControl_endsOn {code : UInt8} {s s' : Service κ W} {ended : ServiceEnd}
    (h : serveControl (.ofByte code) s = .stop ended s') : EndsOn [code] s ended s' := by
  unfold serveControl at h
  split at h
  · split at h
    · cases h
      exact ⟨rfl, Or.inl rfl⟩
    · cases h
  · split at h
    · cases h
      exact ⟨rfl, Or.inl rfl⟩
    · cases h
  · next hcode =>
    split at h
    · cases h
      exact ⟨rfl, Or.inl rfl⟩
    · next atr channel world _ =>
      split at h
      · next e codec hwrite =>
        cases h
        have hasks : Frame.wantsAnswer [code] = true := by simp [Frame.wantsAnswer, hcode]
        exact ⟨rfl, Or.inr ⟨hasks, atr.bytes, e, hwrite, rfl⟩⟩
      · cases h
  · cases h
  · cases h

theorem respond_endsOn {payload : Bytes} {s s' : Service κ W} {ended : ServiceEnd}
    (h : respond payload s = .stop ended s') : EndsOn payload s ended s' := by
  by_cases h1 : payload.length = 1
  · obtain ⟨code, rfl⟩ := List.length_eq_one_iff.mp h1
    exact serveControl_endsOn h
  · rw [respond_data h1] at h
    simp only at h
    split at h
    · next e codec hwrite =>
      cases h
      exact ⟨rfl, Or.inr ⟨Frame.wantsAnswer_of_apdu h1, _, e, hwrite, rfl⟩⟩
    · cases h

/-- What a service has answered on its way from one state to the next until it ended: it took those frames from its
stream, replied to each that asks for an answer, and counted the APDUs that it had answered. -/
structure Answered (payloads : List Bytes) (replies : List Reply) (ended : ServiceEnd) (s s' : Service κ W) :
    Prop where
  frames : replies.map Reply.frame = payloads.filter Frame.wantsAnswer
  writes : Writes replies s.codec s'.codec.sink
  /-- Only the last reply can have failed. -/
  before : ∀ r ∈ replies.dropLast, r.outcome.toBool = true
  failed : ∀ r ∈ replies, ∀ e, r.outcome = .error e → ended = .failed (.transport e)
  counted : s'.served = s.served + replies.countP Reply.counts

variable {payload : Bytes} {payloads : List Bytes} {replies : List Reply} {ended : ServiceEnd}
  {s s₁ s' : Service κ W}

omit [CardChannel W κ] in
theorem answered_none (hsink : s'.codec.sink = s.codec.sink) (hserved : s'.served = s.served) :
    Answered [] [] ended s s' := by
  constructor
  · rfl
  · exact hsink ▸ Writes.nil s.codec
  · simp
  · simp
  · simp [hserved]

omit [CardChannel W κ] in
theorem Answered.quiet (h : Answered payloads replies ended s₁ s') (hasks : Frame.wantsAnswer payload = false)
    (hsink : s.codec.sink = s₁.codec.sink) (hserved : s₁.served = s.served) :
    Answered (payload :: payloads) replies ended s s' := by
  constructor
  · rw [List.filter_cons_of_neg (by simp [hasks]), h.frames]
  · exact h.writes.of_sink hsink
  · exact h.before
  · exact h.failed
  · rw [h.counted, hserved]

omit [CardChannel W κ] in
theorem Answered.reply {answer : Bytes} {c : Codec} (h : Answered payloads replies ended s₁ s')
    (hasks : Frame.wantsAnswer payload = true) (hsink : s.codec.sink = c.sink)
    (hwrite : c.writeData answer = (.ok (), s₁.codec))
    (hserved : s₁.served = s.served + [payload].countP (·.length ≠ 1)) :
    Answered (payload :: payloads) (⟨payload, answer, .ok .done⟩ :: replies) ended s s' := by
  constructor
  · rw [List.map_cons, h.frames, List.filter_cons_of_pos hasks]
  · exact (h.writes.cons hwrite rfl).of_sink hsink
  · intro r hr
    cases replies with
    | nil => simp at hr
    | cons next replies =>
      rw [List.dropLast_cons_cons] at hr
      rcases List.mem_cons.mp hr with rfl | hr
      · rfl
      · exact h.before r hr
  · intro r hr e he
    rcases List.mem_cons.mp hr with rfl | hr
    · cases he
    · exact h.failed r hr e he
  · have hcounts : Reply.counts ⟨payload, answer, .ok .done⟩ = decide (payload.length ≠ 1) := by
      simp [Reply.counts, Except.toBool]
    rw [List.countP_singleton] at hserved
    rw [h.counted, hserved, List.countP_cons, hcounts]
    omega

omit [CardChannel W κ] in
theorem answered_failed {answer : Bytes} {e : TransportError} {c : Codec} (hasks : Frame.wantsAnswer payload = true)
    (hsink : s.codec.sink = c.sink) (hwrite : c.writeData answer = (.error e, s'.codec))
    (hserved : s'.served = s.served) :
    Answered [payload] [⟨payload, answer, .error e⟩] (.failed (.transport e)) s s' := by
  constructor
  · simp [hasks]
  · exact ((Writes.nil s'.codec).cons hwrite rfl).of_sink hsink
  · simp
  · intro r hr e' he
    obtain rfl := List.mem_singleton.mp hr
    cases he
    rfl
  · simp [Reply.counts, Except.toBool, hserved]

variable [CancelToken W]

/-- The round that ends a service takes at most one frame, and writes nothing whole. -/
theorem round_stop (h : round s = .stop ended s') :
    ∃ payloads rest replies, s.codec.source.undelivered = payloads.flatMap Frame.encode ++ rest ∧
      Answered payloads replies ended s s' := by
  have hnone : s'.codec.sink = s.codec.sink → s'.served = s.served →
      ∃ payloads rest replies, s.codec.source.undelivered = payloads.flatMap Frame.encode ++ rest ∧
        Answered payloads replies ended s s' :=
    fun hsink hserved => ⟨[], _, [], rfl, answered_none hsink hserved⟩
  have hsink : s.codec.awaitFrame.2.sink = s.codec.sink :=
    Codec.awaitFrame_keeps (P := fun c => c.sink = s.codec.sink)
      (fun c hc => c.readCommand_sink.trans hc) (fun c hc => c.readData_sink.trans hc) rfl
  cases round_turned s with
  | cancelled _ hround =>
    cases hround.symm.trans h
    exact hnone rfl rfl
  | waiting _ hround =>
    cases hround.symm.trans h
    exact hnone rfl rfl
  | frame payload c hawait hround =>
    rw [hawait] at hsink
    obtain ⟨-, source, pending, rfl, htaken⟩ := Codec.awaitFrame_frame hawait
    obtain ⟨hserved, hquiet | ⟨hasks, answer, e, hwrite, rfl⟩⟩ := respond_endsOn (hround.symm.trans h)
    · exact hnone (hquiet.trans hsink) hserved
    · refine ⟨[payload], source.undelivered, _, ?_, answered_failed hasks hsink.symm hwrite hserved⟩
      rw [List.flatMap_singleton]
      exact htaken
  | idle c _ hround => cases hround.symm.trans h
  | ended ended c hawait hround =>
    rw [hawait] at hsink
    cases hround.symm.trans h
    exact hnone hsink rfl

/-- On its way through whole frames a service has written a whole answer to each that asks for one. -/
theorem Passes.answered {payloads' : List Bytes} (h : Passes payloads s s₁)
    (hend : Answered payloads' replies ended s₁ s') :
    ∃ replies', Answered (payloads ++ payloads') replies' ended s s' := by
  induction h with
  | done s => exact ⟨replies, hend⟩
  | idle hawaits _ ih =>
    obtain ⟨replies', hframes, hwrites, hbefore, hfailed, hcounted⟩ := ih hend
    exact ⟨replies', hframes, hwrites.of_sink hawaits.sink.symm, hbefore, hfailed, by rw [hcounted, hawaits.served]⟩
  | @frame payload payloads s s₁ s₂ s₃ _ hawaits hrespond _ ih =>
    obtain ⟨replies', hrest⟩ := ih hend
    have hresponded := respond_responded payload s₁
    rw [hrespond] at hresponded
    cases hresponded with
    | quiet channel world _ hasks => exact ⟨replies', hrest.quiet hasks hawaits.sink.symm hawaits.served⟩
    | answered answer channel codec world hasks hwrite =>
      exact ⟨_, hrest.reply hasks hawaits.sink.symm hwrite (by rw [hawaits.served])⟩

theorem serve_answered (s : Service κ W) :
    ∃ payloads rest replies, s.codec.source.undelivered = payloads.flatMap Frame.encode ++ rest ∧
      Answered payloads replies (serve s).1 s (serve s).2 := by
  obtain ⟨payloads, s₁, hpasses, hstop⟩ := serve_passes (s := s) rfl
  obtain ⟨payloads', rest, replies, htaken, hend⟩ := round_stop hstop
  obtain ⟨replies', hall⟩ := hpasses.answered hend
  refine ⟨payloads ++ payloads', rest, replies', ?_, hall⟩
  rw [hpasses.handled.taken, htaken, List.flatMap_append, List.append_assoc]

omit [CardChannel W κ] [CancelToken W] in
theorem Answered.unbroken (h : Answered payloads replies ended s s') :
    Unbroken (replies.map Reply.event).dropLast := by
  intro e he frame hbreaks
  rw [← List.map_dropLast] at he
  obtain ⟨r, hr, rfl⟩ := List.mem_map.mp he
  have hok := h.before r hr
  obtain ⟨-, io, hio⟩ := hbreaks
  rw [show r.outcome = .error (.ofIo io) from hio] at hok
  cases hok

/-- The answers of a service go out whole and in order, up to the first that fails, and its count grows by those to
APDUs that were written whole and flushed. -/
theorem serve_counts_whole_answers (c : Codec) (s : Service κ W) :
    c.WritesWhole ∧
    ∃ payloads rest replies,
      s.codec.source.undelivered = payloads.flatMap Frame.encode ++ rest ∧
      Answered payloads replies (serve s).1 s (serve s).2 ∧
      ∃ bytes, (serve s).2.codec.sink.accepted = s.codec.sink.accepted ++ bytes ∧
        Whole (replies.map Reply.event) bytes := by
  obtain ⟨payloads, rest, replies, htaken, hanswered⟩ := serve_answered s
  have hunbroken := hanswered.unbroken
  rw [← hanswered.writes.outcomes] at hunbroken
  obtain ⟨bytes, haccepted, hwhole⟩ := s.codec.writesWhole.whole _ hunbroken
  rw [hanswered.writes.sink] at haccepted
  rw [hanswered.writes.outcomes] at hwhole
  exact ⟨c.writesWhole, payloads, rest, replies, htaken, hanswered, bytes, haccepted, hwhole⟩

/-- A sink that takes a byte, is interrupted, and fails when it has taken two bytes of the third frame. -/
def fitful : Codec where
  source := {}
  sink := { script := [.accept 1, .interrupted, .accept 4, .accept 4, .accept 2, .failure { kind := .brokenPipe }] }

def fitfulCalls : List Request := [.writeCommand .powerOn, .writeData [0x90, 0x00], .writeData [1, 2, 3]]

/-- A service before a reader that sends two APDUs. The second flush of its sink fails. -/
def flushless : Service Scripted.Card Scripted.World where
  channel := { replies := [.raw [0x90, 0x00], .raw [0x6A, 0x82]] }
  codec :=
    { source := { events := [.chunk [0, 4, 0, 0xA4, 4, 0], .chunk [0, 4, 0, 0xA4, 4, 1]] }
      sink := { chunk := some 3, flushFailure := some { kind := .brokenPipe }, soundFlushes := 1 } }
  world := {}

def flushlessOnce : Service Scripted.Card Scripted.World where
  channel := { replies := [.raw [0x6A, 0x82]], exchanges := 1 }
  codec :=
    { source := { events := [.chunk [0, 4, 0, 0xA4, 4, 1]] }
      sink := { flushless.codec.sink with accepted := [0, 2, 0x90, 0x00], flushes := 1 }
      sent := 1 }
  served := 1
  world := { events := #[.transmit ⟨0, 0xA4, 4, 0, none, none⟩] }

def flushlessTwice : Service Scripted.Card Scripted.World where
  channel := { replies := [.raw [0x6A, 0x82]], exchanges := 2 }
  codec :=
    { source := {}
      sink := { flushless.codec.sink with accepted := [0, 2, 0x90, 0x00, 0, 2, 0x6A, 0x82], flushes := 2 }
      sent := 1 }
  served := 1
  world := { events := #[.transmit ⟨0, 0xA4, 4, 0, none, none⟩, .transmit ⟨0, 0xA4, 4, 1, none, none⟩] }

set_option maxRecDepth 4000 in
/-- The second answer of the service was written but not flushed, and is not counted. -/
theorem serve_counts_whole_answers_flushless :
    fitful.history fitfulCalls = [(.writeCommand .powerOn, .ok .done), (.writeData [0x90, 0x00], .ok .done),
      (.writeData [1, 2, 3], .error (.io { kind := .brokenPipe }))] ∧
    Whole (fitful.history fitfulCalls) [0, 1, 1, 0, 2, 0x90, 0x00, 0, 3] ∧
    serve flushless = (.failed (.transport (.io { kind := .brokenPipe })), flushlessTwice) ∧
    ∃ payloads replies,
      Answered payloads replies (.failed (.transport (.io { kind := .brokenPipe }))) flushless flushlessTwice ∧
      replies.countP Reply.counts = 1 ∧ Whole (replies.map Reply.event) [0, 2, 0x90, 0x00, 0, 2, 0x6A, 0x82] := by
  obtain ⟨hcodec, payloads, rest, replies, -, hanswered, bytes', haccepted', hwhole'⟩ :=
    serve_counts_whole_answers fitful flushless
  have hhistory : fitful.history fitfulCalls = [(.writeCommand .powerOn, .ok .done),
      (.writeData [0x90, 0x00], .ok .done), (.writeData [1, 2, 3], .error (.io { kind := .brokenPipe }))] := rfl
  have hunbroken : Unbroken (fitful.history fitfulCalls).dropLast := by
    intro e he frame hbreaks
    obtain ⟨-, io, hio⟩ := hbreaks
    rw [hhistory] at he
    simp only [List.dropLast_cons_cons, List.dropLast_singleton, List.mem_cons, List.not_mem_nil, or_false] at he
    rcases he with rfl | rfl
    · cases hio
    · cases hio
  obtain ⟨bytes, haccepted, hwhole⟩ := hcodec.whole fitfulCalls hunbroken
  have hround : round flushless = .next flushlessOnce := rfl
  have hstop : round flushlessOnce = .stop (.failed (.transport (.io { kind := .brokenPipe }))) flushlessTwice := rfl
  have hserve : serve flushless = (.failed (.transport (.io { kind := .brokenPipe })), flushlessTwice) :=
    (serve_of_next hround).trans (serve_of_stop hstop)
  rw [hserve] at hanswered haccepted'
  have hcounted := hanswered.counted
  refine ⟨hhistory, ?_, hserve, payloads, replies, hanswered, ?_, ?_⟩
  · have hbytes : [0, 1, 1, 0, 2, 0x90, 0x00, 0, 3] = bytes := haccepted
    rwa [hbytes]
  · have hone : 1 = 0 + replies.countP Reply.counts := hcounted
    omega
  · have hbytes : [0, 2, 0x90, 0x00, 0, 2, 0x6A, 0x82] = bytes' := haccepted'
    rwa [hbytes]

end Service
end VirtualCard
end CardLink
