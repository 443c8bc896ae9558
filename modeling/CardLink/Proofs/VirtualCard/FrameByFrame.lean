import CardLink.Proofs.VirtualCard.Awaiting
import CardLink.Proofs.VirtualCard.Serving

/-!
# One frame after another

A round of a service waits for a frame and then responds to it. Waiting only reads, responding only calls the
channel and writes, so two services with the same channel and the same writer respond alike whatever their
readers deliver, as long as the channel cannot tell their worlds apart.
-/

namespace CardLink

namespace Codec

theorem writeData_sink {c c' : Codec} (h : c.sink = c'.sink) (payload : Bytes) :
    (c.writeData payload).1 = (c'.writeData payload).1 ∧
      (c.writeData payload).2.sink = (c'.writeData payload).2.sink := by
  unfold writeData
  split
  · exact ⟨rfl, h⟩
  · unfold writeFrame
    rw [h]
    rcases c'.sink.write (Frame.encode payload) with ⟨outcome, sink⟩
    cases outcome with
    | error e => exact ⟨rfl, rfl⟩
    | ok _ =>
      rcases hflush : sink.flush with ⟨outcome, sink'⟩
      cases outcome <;> simp only [hflush, and_self]

end Codec

namespace Frame

/-- An APDU and a request for the ATR get an answer. -/
def wantsAnswer : Bytes → Bool
  | [code] => ControlCode.ofByte code = .getAtr
  | _ => true

theorem wantsAnswer_of_apdu {payload : Bytes} (h : payload.length ≠ 1) : wantsAnswer payload = true := by
  rcases payload with _ | ⟨first, _ | ⟨second, rest⟩⟩
  · rfl
  · exact absurd rfl h
  · rfl

end Frame

namespace VirtualCard

/-! ## Worlds that look the same -/

section

variable {κ W W' : Type}

/-- Two calls have the same result and leave the same channel, in related worlds. -/
structure OutcomesAgree {α : Type} (R : W → W' → Prop) (o : Outcome κ W α) (o' : Outcome κ W' α) :
    Prop where
  result : o.1 = o'.1
  channel : o.2.1 = o'.2.1
  world : R o.2.2 o'.2.2

/-- No call on the channel tells related worlds apart. -/
structure Blind (κ : Type) {W W' : Type} [CardChannel W κ] [CardChannel W' κ] (R : W → W' → Prop) :
    Prop where
  transmit : ∀ command (k : κ) w w', R w w' →
    OutcomesAgree R (CardChannel.transmit command k w) (CardChannel.transmit command k w')
  atr : ∀ (k : κ) w w', R w w' → OutcomesAgree R (CardChannel.atr k w) (CardChannel.atr k w')

theorem blind_eq [CardChannel W κ] : Blind κ (fun w w' : W => w = w') := by
  constructor
  · rintro command k w _ rfl
    exact ⟨rfl, rfl, rfl⟩
  · rintro k w _ rfl
    exact ⟨rfl, rfl, rfl⟩

/-- The world with a token that is never set, whatever is done in it. -/
structure Undisturbed (W : Type) where
  world : W

def Undisturbed.outcome {α : Type} (o : Outcome κ W α) : Outcome κ (Undisturbed W) α :=
  (o.1, o.2.1, ⟨o.2.2⟩)

instance [CardChannel W κ] : CardChannel (Undisturbed W) κ where
  transmit command k w := Undisturbed.outcome (CardChannel.transmit command k w.world)
  atr k w := Undisturbed.outcome (CardChannel.atr k w.world)
  close k w := Undisturbed.outcome (CardChannel.close k w.world)
  protocol k w := Undisturbed.outcome (CardChannel.protocol k w.world)
  beginExclusive k w := Undisturbed.outcome (CardChannel.beginExclusive k w.world)
  endExclusive k w := Undisturbed.outcome (CardChannel.endExclusive k w.world)
  disconnect reset k w := Undisturbed.outcome (CardChannel.disconnect reset k w.world)
  release k w := ⟨CardChannel.release k w.world⟩

instance : CancelToken (Undisturbed W) where
  poll w := (false, w)

/-- The services have the same channel and the same writer, in related worlds; their readers may differ. -/
structure Service.Agrees (R : W → W' → Prop) (s : Service κ W) (s' : Service κ W') : Prop where
  channel : s.channel = s'.channel
  world : R s.world s'.world
  served : s.served = s'.served
  sink : s.codec.sink = s'.codec.sink

inductive Round.Agrees (R : W → W' → Prop) : Round κ W → Round κ W' → Prop where
  | stop (ended : ServiceEnd) {s : Service κ W} {s' : Service κ W'} (h : s.Agrees R s') :
    Round.Agrees R (.stop ended s) (.stop ended s')
  | next {s : Service κ W} {s' : Service κ W'} (h : s.Agrees R s') : Round.Agrees R (.next s) (.next s')

end

namespace Service

variable {κ W : Type} [CardChannel W κ]

/-- What a service does upon a frame that it has read. -/
def respond (payload : Bytes) (s : Service κ W) : Round κ W :=
  match payload with
  | [code] => serveControl (.ofByte code) s
  | apdu =>
    let (response, channel, world) := answer apdu s.channel s.world
    match s.codec.writeData response.encode with
    | (.error e, codec) => .stop (.failed (.transport e)) { s with channel, codec, world }
    | (.ok (), codec) => .next { channel, codec, served := s.served + 1, world }

theorem respond_data {apdu : Bytes} (h : apdu.length ≠ 1) (s : Service κ W) :
    respond apdu s =
      (let (response, channel, world) := answer apdu s.channel s.world
      match s.codec.writeData response.encode with
      | (.error e, codec) => .stop (.failed (.transport e)) { s with channel, codec, world }
      | (.ok (), codec) => .next { channel, codec, served := s.served + 1, world }) := by
  match apdu, h with
  | [], _ => rfl
  | _ :: _ :: _, _ => rfl

theorem serveFrame_eq (s : Service κ W) :
    serveFrame s =
      match s.codec.awaitFrame with
      | (.frame payload, codec) => respond payload { s with codec }
      | (.idle, codec) => .next { s with codec }
      | (.ended ended, codec) => .stop ended { s with codec } := by
  unfold serveFrame Codec.awaitFrame
  rcases hcommand : s.codec.readCommand with ⟨outcome, c⟩
  cases outcome with
  | error e =>
    cases e with
    | timeout => rfl
    | _ => rfl
  | ok incoming =>
    cases incoming with
    | control code =>
      obtain ⟨b, source, rfl, -⟩ := Codec.readCommand_control_ok hcommand
      simp only [respond, Codec.toByte_ofByte]
    | data length =>
      obtain ⟨hne, -, source, rfl, -⟩ := Codec.readCommand_data_ok hcommand
      simp only [serveData]
      rcases hdata : Codec.readData { s.codec with source, pending := some length } with ⟨outcome, c'⟩
      cases outcome with
      | error e => rfl
      | ok apdu =>
        obtain ⟨hpending, -⟩ := Codec.readData_ok hdata
        obtain rfl : length = apdu.length := Option.some.inj hpending
        exact (respond_data hne { s with codec := c' }).symm

theorem serveFrame_flows {s : Service κ W} {payload rest : Bytes} {after : List ReadEvent}
    (h : Source.Flows (Frame.encode payload ++ rest) after s.codec.source.events)
    (hp : payload.length ≤ Frame.maxPayload) :
    ∃ events pending,
      serveFrame s =
        respond payload
          { s with codec := { s.codec with source := { s.codec.source with events }, pending } } ∧
        Source.Flows rest after events := by
  obtain ⟨events, pending, hawait, hrest⟩ := Codec.awaitFrame_flows h hp
  refine ⟨events, pending, ?_, hrest⟩
  rw [serveFrame_eq, hawait]

/-- What can come of a frame: a failure, no answer to a control frame, or an answer that was written whole. -/
inductive Responded (payload : Bytes) (s : Service κ W) : Round κ W → Prop where
  | failed (e : ChannelError) (s' : Service κ W) (hsource : s'.codec.source = s.codec.source) :
    Responded payload s (.stop (.failed e) s')
  | quiet (channel : κ) (world : W) (hcontrol : payload.length = 1)
    (hasks : Frame.wantsAnswer payload = false) : Responded payload s (.next { s with channel, world })
  | answered (answer : Bytes) (channel : κ) (codec : Codec) (world : W)
    (hasks : Frame.wantsAnswer payload = true) (hwrite : s.codec.writeData answer = (.ok (), codec)) :
    Responded payload s
      (.next { channel, codec, served := s.served + [payload].countP (·.length ≠ 1), world })

theorem serveControl_responded (code : UInt8) (s : Service κ W) :
    Responded [code] s (serveControl (.ofByte code) s) := by
  unfold serveControl
  split
  · next hcode =>
    split
    · exact .failed _ _ rfl
    · exact .quiet _ _ rfl (by simp [Frame.wantsAnswer, hcode])
  · next hcode =>
    split
    · exact .failed _ _ rfl
    · exact .quiet _ _ rfl (by simp [Frame.wantsAnswer, hcode])
  · next hcode =>
    split
    · exact .failed _ _ rfl
    · next atr channel world _ =>
      have hsource := Codec.writeData_source atr.bytes s.codec
      split
      · next hwrite =>
        rw [hwrite] at hsource
        exact .failed _ _ hsource
      · next hwrite => exact .answered atr.bytes channel _ world (by simp [Frame.wantsAnswer, hcode]) hwrite
  · next hcode => exact .quiet _ _ rfl (by simp [Frame.wantsAnswer, hcode])
  · next hcode => exact .quiet _ _ rfl (by simp [Frame.wantsAnswer, hcode])

theorem respond_responded (payload : Bytes) (s : Service κ W) : Responded payload s (respond payload s) := by
  by_cases h1 : payload.length = 1
  · obtain ⟨code, rfl⟩ := List.length_eq_one_iff.mp h1
    exact serveControl_responded code s
  · have hasks := Frame.wantsAnswer_of_apdu h1
    have hsource := Codec.writeData_source (answer payload s.channel s.world).1.encode s.codec
    have hserved : s.served + 1 = s.served + [payload].countP (·.length ≠ 1) := by simp [h1]
    rw [respond_data h1]
    simp only
    split
    · next hwrite =>
      rw [hwrite] at hsource
      exact .failed _ _ hsource
    · next hwrite =>
      rw [hserved]
      exact .answered _ _ _ _ hasks hwrite

theorem respond_source (payload : Bytes) (s : Service κ W) :
    (respond payload s).service.codec.source = s.codec.source := by
  have hresponded := respond_responded payload s
  generalize respond payload s = r at hresponded
  cases hresponded with
  | failed _ _ hsource => exact hsource
  | quiet => rfl
  | answered answer _ _ _ _ hwrite =>
    have hsource := Codec.writeData_source answer s.codec
    rw [hwrite] at hsource
    exact hsource

/-- A response ends a service by failing only. -/
theorem respond_stop {payload : Bytes} {s s' : Service κ W} {ended : ServiceEnd}
    (h : respond payload s = .stop ended s') : ∃ e, ended = .failed e := by
  have hresponded := respond_responded payload s
  rw [h] at hresponded
  cases hresponded with
  | failed e => exact ⟨e, rfl⟩

/-- A response that goes on has written its answer whole. -/
theorem respond_next {payload : Bytes} {s s' : Service κ W} (h : respond payload s = .next s') :
    ∃ answer : Option Bytes, answer.isSome = Frame.wantsAnswer payload ∧
      (∀ bytes, answer = some bytes → bytes.length ≤ Frame.maxPayload) ∧
      s'.codec.sink.accepted = s.codec.sink.accepted ++ answer.elim [] Frame.encode ∧
      s'.served = s.served + [payload].countP (·.length ≠ 1) := by
  have hresponded := respond_responded payload s
  rw [h] at hresponded
  cases hresponded with
  | quiet _ _ hcontrol hasks => exact ⟨none, hasks.symm, by simp, by simp, by simp [hcontrol]⟩
  | answered answer _ _ _ hasks hwrite =>
    obtain ⟨hfits, hwritten⟩ := Codec.writeData_ok hwrite
    exact ⟨some answer, hasks.symm, by simpa using hfits, hwritten, rfl⟩

section

variable {W' : Type} [CardChannel W' κ] {R : W → W' → Prop}

theorem serveControl_agrees (hR : Blind κ R) {s : Service κ W} {s' : Service κ W'} (h : s.Agrees R s')
    (code : ControlCode) : (serveControl code s).Agrees R (serveControl code s') := by
  obtain ⟨channel, codec, served, world⟩ := s
  obtain ⟨channel', codec', served', world'⟩ := s'
  obtain ⟨rfl, hworld, rfl, hsink⟩ := h
  obtain ⟨hresult, hchannel, hworld'⟩ := hR.atr channel world world' hworld
  unfold serveControl
  rcases hatr : CardChannel.atr channel world with ⟨result, k, w⟩
  rcases hatr' : CardChannel.atr channel world' with ⟨result', k', w'⟩
  rw [hatr, hatr'] at hresult hchannel hworld'
  obtain rfl : result = result' := hresult
  obtain rfl : k = k' := hchannel
  cases code with
  | powerOn | reset =>
    cases result with
    | error e => exact .stop _ ⟨rfl, hworld', rfl, hsink⟩
    | ok atr => exact .next ⟨rfl, hworld', rfl, hsink⟩
  | getAtr =>
    cases result with
    | error e => exact .stop _ ⟨rfl, hworld', rfl, hsink⟩
    | ok atr =>
      obtain ⟨houtcome, hsink'⟩ := Codec.writeData_sink hsink atr.bytes
      rcases hwrite : codec.writeData atr.bytes with ⟨outcome, c⟩
      rcases hwrite' : codec'.writeData atr.bytes with ⟨outcome', c'⟩
      rw [hwrite, hwrite'] at houtcome hsink'
      obtain rfl : outcome = outcome' := houtcome
      simp only [hwrite, hwrite']
      cases outcome with
      | error e => exact .stop _ ⟨rfl, hworld', rfl, hsink'⟩
      | ok _ => exact .next ⟨rfl, hworld', rfl, hsink'⟩
  | powerOff | other => exact .next ⟨rfl, hworld, rfl, hsink⟩

theorem answer_agrees (hR : Blind κ R) (apdu : Bytes) (k : κ) {w : W} {w' : W'} (h : R w w') :
    (answer apdu k w).1 = (answer apdu k w').1 ∧ (answer apdu k w).2.1 = (answer apdu k w').2.1 ∧
      R (answer apdu k w).2.2 (answer apdu k w').2.2 := by
  unfold answer
  cases Command.parse apdu with
  | error e => exact ⟨rfl, rfl, h⟩
  | ok command =>
    obtain ⟨hresult, hchannel, hworld⟩ := hR.transmit command k w w' h
    rcases htr : CardChannel.transmit command k w with ⟨result, k₁, w₁⟩
    rcases htr' : CardChannel.transmit command k w' with ⟨result', k₁', w₁'⟩
    rw [htr, htr'] at hresult hchannel hworld
    obtain rfl : result = result' := hresult
    simp only [htr, htr']
    cases result with
    | error e => exact ⟨rfl, hchannel, hworld⟩
    | ok response => exact ⟨rfl, hchannel, hworld⟩

theorem respond_agrees (hR : Blind κ R) {s : Service κ W} {s' : Service κ W'} (h : s.Agrees R s')
    (payload : Bytes) : (respond payload s).Agrees R (respond payload s') := by
  by_cases h1 : payload.length = 1
  · obtain ⟨code, rfl⟩ := List.length_eq_one_iff.mp h1
    exact serveControl_agrees hR h (.ofByte code)
  · rw [respond_data h1, respond_data h1, h.channel]
    obtain ⟨hresponse, hchannel, hworld⟩ := answer_agrees hR payload s'.channel h.world
    rcases ha : answer payload s'.channel s.world with ⟨response, k, w⟩
    rcases ha' : answer payload s'.channel s'.world with ⟨response', k', w'⟩
    rw [ha, ha'] at hresponse hchannel hworld
    obtain rfl : response = response' := hresponse
    obtain ⟨houtcome, hsink⟩ := Codec.writeData_sink h.sink response.encode
    rcases hwrite : s.codec.writeData response.encode with ⟨outcome, c⟩
    rcases hwrite' : s'.codec.writeData response.encode with ⟨outcome', c'⟩
    rw [hwrite, hwrite'] at houtcome hsink
    obtain rfl : outcome = outcome' := houtcome
    simp only [hwrite, hwrite']
    cases outcome with
    | error e => exact .stop _ ⟨hchannel, hworld, h.served, hsink⟩
    | ok _ => exact .next ⟨hchannel, hworld, congrArg (· + 1) h.served, hsink⟩

end

/-! ## Runs -/

variable [CancelToken W]

/-- The states of a service between its rounds. -/
inductive Reaches : Service κ W → Service κ W → Prop where
  | refl (s : Service κ W) : Reaches s s
  | round {s s' s'' : Service κ W} : round s = .next s' → Reaches s' s'' → Reaches s s''

def Uncancelled (s : Service κ W) : Prop := ∀ s', Reaches s s' → CancelToken.Unset s'.world

theorem Uncancelled.next {s s' : Service κ W} (h : s.Uncancelled) (hround : round s = .next s') :
    s'.Uncancelled := fun s'' hreach => h s'' (.round hround hreach)

omit [CancelToken W] in
theorem uncancelled_undisturbed (s : Service κ (Undisturbed W)) : s.Uncancelled := fun _ _ => rfl

theorem round_of_poll {s : Service κ W} {w : W} (hpoll : CancelToken.poll s.world = (false, w))
    (hstarved : s.codec.isStarved = false) : round s = serveFrame { s with world := w } := by
  simp [round, hpoll, hstarved]

theorem serve_of_reaches {s s' : Service κ W} (h : Reaches s s') : serve s = serve s' := by
  induction h with
  | refl => rfl
  | round hround _ ih => exact (serve_of_next hround).trans ih

omit [CardChannel W κ] [CancelToken W] in
theorem not_starved_of_delivers {s : Service κ W} {bytes : Bytes} (h : s.codec.source.Delivers bytes) :
    s.codec.isStarved = false := by
  have hsource : s.codec.source = ⟨s.codec.source.events, .eof⟩ := by rw [← h.ends]
  unfold Codec.isStarved
  rw [hsource]
  exact h.flows.not_starved rfl

theorem round_delivers {s : Service κ W} {bytes : Bytes} (hunset : CancelToken.Unset s.world)
    (h : s.codec.source.Delivers bytes) : round s = serveFrame s :=
  round_of_poll hunset (not_starved_of_delivers h)

def reading (source : Source) (s : Service κ W) : Service κ W :=
  { s with codec := { s.codec with source } }

theorem serve_gone {s : Service κ W} (hunset : CancelToken.Unset s.world)
    (h : s.codec.source.Delivers []) : serve s = (.hungUp, s.reading ⟨[], .eof⟩) := by
  have hround := round_delivers hunset h
  rw [serveFrame_eq, Codec.awaitFrame_gone h] at hround
  exact serve_of_stop hround

end Service
end VirtualCard
end CardLink
