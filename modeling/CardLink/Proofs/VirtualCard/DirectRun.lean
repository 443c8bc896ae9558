import CardLink.Proofs.Apdu.RoundTrip
import CardLink.Proofs.VirtualCard.Serving

/-!
# The calls behind the frames

A reader's calls reach the channel of a service as frames. Each call is made once, with the command that
is read from the bytes of the reader's command, and answered by one frame. The answers that frames can
carry are those of a channel whose ATR never fails and that says nothing too long; a failed exchange is
covered by 6F00.
-/

namespace CardLink.VirtualCard

/-- The calls of a reader that reach the card. -/
inductive CardCall where
  | transmit (c : Command)
  | atr
  deriving DecidableEq, Repr

def answerBytes : Answer → Bytes
  | .response r => r.encode
  | .atr a => a.bytes
  | _ => []

/-- What a reader gets for what a channel gave. -/
def covered : Except ChannelError Answer → Answer
  | .ok answer => answer
  | .error _ => .response (.statusOnly .noPreciseDiagnosis)

namespace CardCall

def isTransmit : CardCall → Bool
  | .transmit _ => true
  | .atr => false

/-- The payload of the frame that asks for the call. -/
def payload : CardCall → Bytes
  | .transmit c => c.encode
  | .atr => [ControlCode.getAtr.toByte]

/-- The call that is made when that frame arrives. -/
def arriving : CardCall → CardCall
  | .transmit c => .transmit c.arriving
  | .atr => .atr

def Encodable : CardCall → Prop
  | .transmit c => c.Encodable
  | .atr => True

/-- What a reader makes of the bytes of the answer. -/
def understand (raw : Bytes) : CardCall → Except ChannelError Answer
  | .transmit _ => ((Response.parse raw).mapError .response).map .response
  | .atr => .ok (.atr ⟨raw⟩)

/-- The outcome can be told to a reader that accepts that many bytes. -/
def Fits (limit : Nat) (outcome : Except ChannelError Answer) : CardCall → Prop
  | .transmit _ => ∀ answer, outcome = .ok answer → (answerBytes answer).length ≤ limit
  | .atr => ∃ answer, outcome = .ok answer ∧ (answerBytes answer).length ≤ limit

theorem payload_arriving {call : CardCall} (h : call.Encodable) :
    call.arriving.payload = call.payload := by
  cases call with
  | transmit c => exact Command.encode_arriving h
  | atr => rfl

theorem length_payload_le {call : CardCall} (h : call.Encodable) :
    call.payload.length ≤ Frame.maxPayload := by
  cases call with
  | transmit c =>
    have := Command.length_encode_le h.lengths
    simp only [payload, Frame.maxPayload]
    omega
  | atr => simp [payload, Frame.maxPayload]

section

variable {κ W : Type} [CardChannel W κ]

def perform (call : CardCall) (k : κ) (w : W) : Outcome κ W Answer :=
  match call with
  | .transmit c => (CardChannel.transmit c k w).map .response
  | .atr => (CardChannel.atr k w).map .atr

/-- The outcomes of the calls in order, and the channel and the world after them. -/
def performAll : List CardCall → κ → W → List (Except ChannelError Answer) × κ × W
  | [], k, w => ([], k, w)
  | call :: calls, k, w =>
    let (outcome, k, w) := call.perform k w
    let (outcomes, k, w) := performAll calls k w
    (outcome :: outcomes, k, w)

/-- Along the calls, every outcome fits and the token is not set. -/
def Dependable [CancelToken W] (limit : Nat) : List CardCall → κ → W → Prop
  | [], _, w => CancelToken.Unset w
  | call :: calls, k, w =>
    CancelToken.Unset w ∧ call.Fits limit (call.perform k w).1 ∧
      Dependable limit calls (call.perform k w).2.1 (call.perform k w).2.2

theorem performAll_cons (call : CardCall) (calls : List CardCall) (k : κ) (w : W) :
    performAll (call :: calls) k w =
      ((call.perform k w).1 :: (performAll calls (call.perform k w).2.1 (call.perform k w).2.2).1,
        (performAll calls (call.perform k w).2.1 (call.perform k w).2.2).2) := rfl

theorem performAll_append (calls calls' : List CardCall) (k : κ) (w : W) :
    performAll (calls ++ calls') k w =
      ((performAll calls k w).1 ++
          (performAll calls' (performAll calls k w).2.1 (performAll calls k w).2.2).1,
        (performAll calls' (performAll calls k w).2.1 (performAll calls k w).2.2).2) := by
  induction calls generalizing k w with
  | nil => rfl
  | cons call calls ih => simp only [List.cons_append, performAll_cons, ih]

omit [CardChannel W κ] in
/-- Nothing of an answer is lost in reading it. -/
theorem answerBytes_of_understand {call : CardCall} {raw : Bytes} {answer : Answer}
    (h : call.understand raw = .ok answer) : answerBytes answer = raw := by
  cases call with
  | transmit c =>
    rw [understand] at h
    cases hparse : Response.parse raw with
    | error e =>
      rw [hparse] at h
      cases h
    | ok r =>
      rw [hparse] at h
      cases h
      exact Response.encode_of_parse hparse
  | atr =>
    cases h
    rfl

omit [CardChannel W κ] in
theorem understand_arriving (call : CardCall) (raw : Bytes) :
    call.arriving.understand raw = call.understand raw := by
  cases call with
  | transmit c => rfl
  | atr => rfl

theorem understand_covered {limit : Nat} {call : CardCall} {k : κ} {w : W}
    (h : call.Fits limit (call.perform k w).1) :
    call.understand (answerBytes (covered (call.perform k w).1))
      = .ok (covered (call.perform k w).1) := by
  cases call with
  | transmit c =>
    rcases htr : CardChannel.transmit c k w with ⟨result, k', w'⟩
    cases result with
    | error e =>
      simp only [perform, Outcome.map, htr]
      rfl
    | ok r =>
      simp only [perform, Outcome.map, htr, Except.map, covered, understand, answerBytes,
        Response.parse_encode]
      rfl
  | atr =>
    obtain ⟨answer, hok, -⟩ := h
    rcases hatr : CardChannel.atr k w with ⟨result, k', w'⟩
    simp only [perform, Outcome.map, hatr] at hok ⊢
    cases result with
    | error e => cases hok
    | ok a => rfl

omit [CardChannel W κ] in
theorem length_covered_le {limit : Nat} {call : CardCall} {outcome : Except ChannelError Answer}
    (h2 : 2 ≤ limit) (h : call.Fits limit outcome) : (answerBytes (covered outcome)).length ≤ limit := by
  cases outcome with
  | error e => exact h2
  | ok answer =>
    cases call with
    | transmit c => exact h answer rfl
    | atr =>
      obtain ⟨answer', heq, hle⟩ := h
      cases heq
      exact hle

/-- The frame of a call makes the call and sends its answer. -/
theorem frame_payload {limit : Nat} {call : CardCall} {p : Progress κ W} (hc : call.Encodable)
    (hlimit : limit ≤ Frame.maxPayload) (h2 : 2 ≤ limit)
    (hfits : call.arriving.Fits limit (call.arriving.perform p.channel p.world).1) :
    p.frame call.payload =
      (none,
        { channel := (call.arriving.perform p.channel p.world).2.1
          world := (call.arriving.perform p.channel p.world).2.2
          served := p.served + if call.isTransmit then 1 else 0
          written := p.written ++
            Frame.encode (answerBytes (covered (call.arriving.perform p.channel p.world).1)) }) := by
  have hlen := length_covered_le h2 hfits
  have hsend : (answerBytes (covered (call.arriving.perform p.channel p.world).1)).length ≤ 65535 :=
    Nat.le_trans hlen hlimit
  cases call with
  | transmit c =>
    have hne : (payload (.transmit c)).length ≠ 1 := by
      have := Command.four_le_length_encode c
      simp only [payload]
      omega
    rw [Progress.frame_data hne]
    simp only [payload, arriving] at hsend ⊢
    rcases htr : CardChannel.transmit c.arriving p.channel p.world with ⟨result, k', w'⟩
    have hx : p.exchange c.encode =
        ((match result with | .ok r => r | .error _ => .statusOnly .noPreciseDiagnosis),
          { p with channel := k', world := w' }) := by
      rw [Progress.exchange, Command.parse_encode hc]
      simp only [htr]
      cases result <;> rfl
    simp only [perform, Outcome.map, htr] at hsend
    rw [Progress.data, hx]
    cases result with
    | error e => simp [perform, Outcome.map, htr, Except.map, covered, answerBytes, Progress.send,
        Response.encode, Response.statusOnly, StatusWord.bytes, isTransmit]
    | ok r =>
      have hr : r.encode.length ≤ 65535 := hsend
      simp [perform, Outcome.map, htr, Except.map, covered, answerBytes, Progress.send, hr, isTransmit]
  | atr =>
    rcases hatr : CardChannel.atr p.channel p.world with ⟨result, k', w'⟩
    obtain ⟨answer, hok, -⟩ := hfits
    simp only [arriving, perform, Outcome.map, hatr] at hok hsend ⊢
    cases result with
    | error e => cases hok
    | ok a =>
      have ha : a.bytes.length ≤ 65535 := hsend
      simp [payload, ControlCode.toByte, Progress.frame, Progress.control, Progress.power, hatr,
        Progress.send, ha, covered, answerBytes, Except.map, isTransmit]

/-- A frame that powers or resets the card makes one ATR call and sends nothing. -/
theorem frame_power {limit : Nat} (code : UInt8) {p : Progress κ W} (hcode : code = 1 ∨ code = 2)
    (hfits : CardCall.atr.Fits limit (CardCall.atr.perform p.channel p.world).1) :
    p.frame [code] =
      (none,
        { p with
          channel := (CardCall.atr.perform p.channel p.world).2.1
          world := (CardCall.atr.perform p.channel p.world).2.2 }) := by
  rcases hatr : CardChannel.atr p.channel p.world with ⟨result, k', w'⟩
  obtain ⟨answer, hok, -⟩ := hfits
  simp only [perform, Outcome.map, hatr] at hok ⊢
  cases result with
  | error e => cases hok
  | ok a => simp [Progress.frame, Progress.control, Progress.power, hatr, hcode]

/-- The frames of the calls make the calls in order, by induction on the calls. -/
theorem frames_payloads [CancelToken W] {limit : Nat} {calls : List CardCall} {p : Progress κ W}
    (hc : ∀ call ∈ calls, call.Encodable) (hlimit : limit ≤ Frame.maxPayload) (h2 : 2 ≤ limit)
    {after : List CardCall}
    (hdep : Dependable limit (calls.map arriving ++ after) p.channel p.world) :
    (p.frames (calls.map payload)).1 = none ∧
    (p.frames (calls.map payload)).2.channel =
      (performAll (calls.map arriving) p.channel p.world).2.1 ∧
    (p.frames (calls.map payload)).2.world =
      (performAll (calls.map arriving) p.channel p.world).2.2 ∧
    (p.frames (calls.map payload)).2.served = p.served + calls.countP isTransmit ∧
    Dependable limit after (p.frames (calls.map payload)).2.channel
      (p.frames (calls.map payload)).2.world := by
  induction calls generalizing p with
  | nil => exact ⟨rfl, rfl, rfl, rfl, hdep⟩
  | cons call calls ih =>
    obtain ⟨-, hfits, hrest⟩ := hdep
    have hf := frame_payload (hc call List.mem_cons_self) hlimit h2 hfits
    have hnone : (p.frame call.payload).1 = none := by rw [hf]
    obtain ⟨h1, hch, hw, hserved, hafter⟩ := ih (p := (p.frame call.payload).2)
      (fun c hmem => hc c (List.mem_cons_of_mem _ hmem)) (by rw [hf]; exact hrest)
    rw [List.map_cons, Progress.frames_cons_none hnone]
    refine ⟨h1, ?_, ?_, ?_, hafter⟩
    · rw [hch, List.map_cons, performAll_cons, hf]
    · rw [hw, List.map_cons, performAll_cons, hf]
    · rw [hserved, hf, List.countP_cons]
      simp only
      omega

/-! ## A whole connection -/

/-- The payloads of all frames that a reader writes for its calls, from power-on to reset. -/
def payloads (calls : List CardCall) : List Bytes :=
  [ControlCode.powerOn.toByte] :: (calls.map payload ++ [[ControlCode.reset.toByte]])

/-- The calls that these frames make. -/
def whole (calls : List CardCall) : List CardCall := .atr :: (calls.map arriving ++ [.atr])

theorem performAll_whole (calls : List CardCall) (k : κ) (w : W) :
    ∃ reset, (performAll (whole calls) k w).1 =
      (CardCall.atr.perform k w).1 ::
        ((performAll (calls.map arriving) (CardCall.atr.perform k w).2.1
          (CardCall.atr.perform k w).2.2).1 ++ [reset]) := by
  rw [whole, performAll_cons, performAll_append]
  exact ⟨_, rfl⟩

theorem length_payloads_le {calls : List CardCall} (hc : ∀ call ∈ calls, call.Encodable) :
    ∀ payload ∈ payloads calls, payload.length ≤ Frame.maxPayload := by
  intro q hq
  rcases List.mem_cons.mp hq with rfl | hq
  · simp [Frame.maxPayload]
  rcases List.mem_append.mp hq with hq | hq
  · obtain ⟨call, hmem, rfl⟩ := List.mem_map.mp hq
    exact length_payload_le (hc call hmem)
  · rw [List.mem_singleton.mp hq]
    simp [Frame.maxPayload]

section

variable [CancelToken W] {limit : Nat} {calls : List CardCall} {p : Progress κ W}

/-- The frames from power-on to reset make the calls, and none of them ends the service. -/
theorem frames_whole (hc : ∀ call ∈ calls, call.Encodable) (hlimit : limit ≤ Frame.maxPayload)
    (h2 : 2 ≤ limit) (hdep : Dependable limit (whole calls) p.channel p.world) :
    (p.frames (payloads calls)).1 = none ∧
    (p.frames (payloads calls)).2.channel = (performAll (whole calls) p.channel p.world).2.1 ∧
    (p.frames (payloads calls)).2.world = (performAll (whole calls) p.channel p.world).2.2 ∧
    (p.frames (payloads calls)).2.served = p.served + calls.countP isTransmit := by
  obtain ⟨-, hfits, hrest⟩ := hdep
  have hon := frame_power ControlCode.powerOn.toByte (Or.inl rfl) hfits
  have hnone : (p.frame [ControlCode.powerOn.toByte]).1 = none := by rw [hon]
  rw [payloads, Progress.frames_cons_none hnone, hon]
  obtain ⟨h1, hch, hw, hserved, hafter⟩ := frames_payloads (p := { p with
    channel := (CardCall.atr.perform p.channel p.world).2.1
    world := (CardCall.atr.perform p.channel p.world).2.2 }) hc hlimit h2 hrest
  have hoff := frame_power ControlCode.reset.toByte (Or.inr rfl) hafter.2.1
  rw [Progress.frames_append_none h1, Progress.frames_cons_none (by rw [hoff]), hoff, hch, hw, hserved]
  refine ⟨rfl, ?_, ?_, rfl⟩
  · rw [whole, performAll_cons, performAll_append]
    rfl
  · rw [whole, performAll_cons, performAll_append]
    rfl

theorem quiet_cons {q : Bytes} {qs : List Bytes} (h0 : CancelToken.Unset p.world)
    (hnone : (p.frame q).1 = none)
    (h : ∀ n, CancelToken.Unset ((p.frame q).2.frames (qs.take n)).2.world) (n : Nat) :
    CancelToken.Unset (p.frames ((q :: qs).take n)).2.world := by
  cases n with
  | zero => exact h0
  | succ n =>
    rw [List.take_succ_cons, Progress.frames_cons_none hnone]
    exact h n

/-- The token is not set after any of the frames. -/
theorem quiet_whole (hc : ∀ call ∈ calls, call.Encodable) (hlimit : limit ≤ Frame.maxPayload)
    (h2 : 2 ≤ limit) (hdep : Dependable limit (whole calls) p.channel p.world) (n : Nat) :
    CancelToken.Unset (p.frames ((payloads calls).take n)).2.world := by
  obtain ⟨h0, hfits, hrest⟩ := hdep
  have hon := frame_power ControlCode.powerOn.toByte (Or.inl rfl) hfits
  refine quiet_cons h0 (by rw [hon]) ?_ n
  rw [hon]
  generalize hp : ({ p with
    channel := (CardCall.atr.perform p.channel p.world).2.1
    world := (CardCall.atr.perform p.channel p.world).2.2 } : Progress κ W) = p'
  have hdep' : Dependable limit (calls.map arriving ++ [.atr]) p'.channel p'.world := by
    rw [← hp]
    exact hrest
  clear hp hrest
  induction calls generalizing p' with
  | nil =>
    obtain ⟨h0', hfits', hlast⟩ := hdep'
    have hoff := frame_power ControlCode.reset.toByte (Or.inr rfl) hfits'
    refine quiet_cons h0' (by rw [hoff]) ?_
    intro n
    rw [hoff, List.take_nil]
    exact hlast
  | cons call calls ih =>
    obtain ⟨h0', hfits', hrest'⟩ := hdep'
    have hf := frame_payload (hc call List.mem_cons_self) hlimit h2 hfits'
    refine quiet_cons h0' (by rw [hf]) ?_
    exact ih (fun c hmem => hc c (List.mem_cons_of_mem _ hmem)) _ (by rw [hf]; exact hrest')

end
end
end CardCall
end CardLink.VirtualCard
