import CardLink.Proofs.VirtualCard.Exchange
import CardLink.Proofs.Wire.Whole
import CardLink.VirtualCard.LocalHost

/-!
# Sessions in step with their peer

As long as no call on a connection fails for good, each call has written its request and has read one frame,
so the calls and the frames of the peer go together one by one. Nothing is asked of the peer or of the
stream: whatever goes wrong inside a frame or in writing is a terminal failure, and a frame that makes no
sense as an answer is not.
-/

namespace CardLink.VirtualCard

namespace CardCall

/-- The outcome tells the owner to close the channel. -/
def isTerminal : Except ChannelError Answer → Bool
  | .ok _ => false
  | .error e => e.isTerminal

/-- The call has written its whole request and read one frame, which alone decides the outcome. -/
structure InStep (call : CardCall) (payload : Bytes) (outcome : Except ChannelError Answer)
    (c c' : Codec) : Prop where
  asked : c'.sink.accepted = c.sink.accepted ++ Frame.encode call.payload
  short : payload.length ≤ Frame.maxPayload
  taken : c.source.undelivered = Frame.encode payload ++ c'.source.undelivered
  decides : outcome = call.understand payload

/-- What a frame says is never terminal. -/
theorem understand_goes_on (call : CardCall) (raw : Bytes) : isTerminal (call.understand raw) = false := by
  cases call with
  | transmit c =>
    rw [understand]
    cases Response.parse raw <;> rfl
  | atr => rfl

theorem failure_terminal (call : CardCall) (e : TransportError) : (call.failure e).isTerminal = true := by
  cases call <;> rfl

theorem understand_incomplete {raw : Bytes} (h : raw.length < 2) (c : Command) :
    (transmit c).understand raw = .error (.response (.incomplete raw.length)) := by
  match raw, h with
  | [], _ => rfl
  | [_], _ => rfl

theorem write_ok {call : CardCall} {c c' : Codec} (h : call.write c = (.ok (), c')) :
    c'.source = c.source ∧ c'.sink.accepted = c.sink.accepted ++ Frame.encode call.payload := by
  cases call with
  | transmit command =>
    have hsource := Codec.writeData_source command.encode c
    rw [write] at h
    rw [h] at hsource
    exact ⟨hsource, (Codec.writeData_ok h).2⟩
  | atr =>
    have hsource := Codec.writeFrame_source (Frame.control .getAtr) c
    have hwritten := Codec.writeFrame_ok h
    rw [write, Codec.writeCommand] at h
    rw [h] at hsource
    exact ⟨hsource, hwritten⟩

variable {W : Type} [Network W] {s : Session} {c : Codec}

theorem perform_inStep (hs : s.IsOn c) (call : CardCall) (w : W) :
    ∃ c', (call.perform s w).2.1.IsOn c' ∧
      (isTerminal (call.perform s w).1 = true ∨ ∃ payload, InStep call payload (call.perform s w).1 c c') := by
  obtain ⟨houtcome, hon, -⟩ := perform_isOn hs call w
  refine ⟨_, hon, ?_⟩
  rw [houtcome]
  unfold Session.exchange
  rcases hwrite : call.write c with ⟨outcome, c₁⟩
  cases outcome with
  | error e => exact Or.inl (call.failure_terminal e)
  | ok _ =>
    obtain ⟨hsource, hasked⟩ := write_ok hwrite
    rcases hread : c₁.readResponse with ⟨outcome, c₂⟩
    cases outcome with
    | error e =>
      simp only [hread]
      exact Or.inl (call.failure_terminal e)
    | ok payload =>
      obtain ⟨hc₂, hshort, htaken⟩ := Codec.readResponse_ok hread
      simp only [hread]
      refine Or.inr ⟨payload, ?_, hshort, ?_, rfl⟩
      · rw [hc₂]
        exact hasked
      · rw [← hsource]
        exact htaken

/-- Calls that have not failed for good have taken one frame each. -/
theorem performAll_inStep (hs : s.IsOn c) (calls : List CardCall) (w : W)
    (hgood : ∀ outcome ∈ (performAll calls s w).1, isTerminal outcome = false) :
    ∃ c', (performAll calls s w).2.1.IsOn c' ∧
      (∃ payloads, payloads.length = calls.length ∧
        (Frame.split c.source.undelivered).1 = payloads ++ (Frame.split c'.source.undelivered).1 ∧
        c.source.undelivered = payloads.flatMap Frame.encode ++ c'.source.undelivered) ∧
      c'.sink.accepted = c.sink.accepted ++ calls.flatMap fun call => Frame.encode call.payload := by
  induction calls generalizing s c w with
  | nil => exact ⟨c, hs, ⟨[], rfl, rfl, rfl⟩, (List.append_nil _).symm⟩
  | cons call calls ih =>
    rw [performAll_cons] at hgood ⊢
    obtain ⟨c₁, hs₁, hstep⟩ := perform_inStep hs call w
    have hfirst := hgood _ List.mem_cons_self
    rcases hstep with hterminal | ⟨payload, hasked, hshort, htaken, -⟩
    · rw [hterminal] at hfirst
      cases hfirst
    · obtain ⟨c', hs', ⟨payloads, hlength, hsplit, hrest⟩, haccepted⟩ :=
        ih hs₁ _ fun outcome hmem => hgood outcome (List.mem_cons_of_mem _ hmem)
      refine ⟨c', hs', ⟨payload :: payloads, by rw [List.length_cons, hlength, List.length_cons], ?_, ?_⟩, ?_⟩
      · rw [htaken, Frame.split_encode hshort, hsplit]
        rfl
      · rw [htaken, hrest, List.flatMap_cons, List.append_assoc]
      · rw [haccepted, hasked, List.flatMap_cons, List.append_assoc]

/-- After calls that have not failed for good, the next one takes the next frame, which decides it alone, or
fails for good itself. So a call that leaves a frame in part, or has not written its request whole, fails for
good; an answer without a status word does not. -/
theorem session_stays_in_step (hs : s.IsOn c) (before : List CardCall) (w : W)
    (hgood : ∀ outcome ∈ (performAll before s w).1, isTerminal outcome = false) :
    ∃ c₁, (performAll before s w).2.1.IsOn c₁ ∧
      c.source.undelivered =
        ((Frame.split c.source.undelivered).1.take before.length).flatMap Frame.encode ++
          c₁.source.undelivered ∧
      c₁.sink.accepted = c.sink.accepted ++ before.flatMap (fun call => Frame.encode call.payload) ∧
      ∀ call : CardCall,
        let outcome := (call.perform (performAll before s w).2.1 (performAll before s w).2.2).1
        let s₂ := (call.perform (performAll before s w).2.1 (performAll before s w).2.2).2.1
        ∃ c₂, s₂.IsOn c₂ ∧
          (isTerminal outcome = false ↔
            ∃ payload, (Frame.split c.source.undelivered).1[before.length]? = some payload ∧
              InStep call payload outcome c₁ c₂) ∧
          ∀ command payload, call = .transmit command → InStep call payload outcome c₁ c₂ →
            payload.length < 2 → outcome = .error (.response (.incomplete payload.length)) := by
  obtain ⟨c₁, hs₁, ⟨payloads, hlength, hsplit, hrest⟩, haccepted⟩ := performAll_inStep hs before w hgood
  refine ⟨c₁, hs₁, ?_, haccepted, ?_⟩
  · rw [hsplit, ← hlength, List.take_left]
    exact hrest
  · intro call
    obtain ⟨c₂, hs₂, hstep⟩ := perform_inStep hs₁ call (performAll before s w).2.2
    refine ⟨c₂, hs₂, ⟨?_, ?_⟩, ?_⟩
    · intro hgoes
      rcases hstep with hterminal | ⟨payload, hin⟩
      · rw [hterminal] at hgoes
        cases hgoes
      · refine ⟨payload, ?_, hin⟩
        rw [hsplit, hin.taken, Frame.split_encode hin.short, ← hlength]
        simp
    · rintro ⟨payload, -, hin⟩
      rw [hin.decides]
      exact call.understand_goes_on payload
    · rintro command payload rfl hin hshort
      rw [hin.decides]
      exact understand_incomplete hshort command

/-- The peer answers the first request with half a status word and stops in its third answer. -/
def halfAnswers : Codec where
  source.events := [.chunk [0, 1], .failure { kind := .interrupted }, .chunk [0x90, 0, 2, 0x90],
    .chunk [0, 0], .failure { kind := .timedOut }]

def halfAnswered : Session where
  config := {}
  link := some ⟨7, halfAnswers⟩

def selectFile : CardCall := .transmit ⟨0, 0xA4, 4, 0, none, none⟩

theorem session_stays_in_step_half :
    (let (outcomes, s, w) := performAll [selectFile] halfAnswered ({} : LocalHost Empty)
    outcomes = [.error (.response (.incomplete 1))] ∧
      (selectFile.perform s w).1 = .ok (.response ⟨[], ⟨0x90, 0x00⟩⟩)) := by
  have hon : halfAnswered.IsOn halfAnswers := ⟨rfl, 7, rfl⟩
  have hfirst : (performAll [selectFile] halfAnswered ({} : LocalHost Empty)).1 =
      [.error (.response (.incomplete 1))] := rfl
  have hgood : ∀ outcome ∈ (performAll [selectFile] halfAnswered ({} : LocalHost Empty)).1,
      isTerminal outcome = false := by
    rw [hfirst]
    decide
  obtain ⟨c₁, -, -, -, hnext⟩ := session_stays_in_step hon [selectFile] ({} : LocalHost Empty) hgood
  obtain ⟨c₂, -, hstep, -⟩ := hnext selectFile
  obtain ⟨payload, hframe, hin⟩ := hstep.mp rfl
  have hsplit : (Frame.split halfAnswers.source.undelivered).1 = [[0x90], [0x90, 0x00]] := by
    simp [halfAnswers, Source.undelivered, ReadEvent.bytes, Frame.split, Frame.headerLength]
  rw [hsplit] at hframe
  obtain rfl : [0x90, 0x00] = payload := Option.some.inj hframe
  exact ⟨hfirst, hin.decides⟩

end CardCall
end CardLink.VirtualCard
