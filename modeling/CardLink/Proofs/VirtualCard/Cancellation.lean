import CardLink.Proofs.VirtualCard.FrameByFrame

/-!
# Cancellation

A service looks at its token between two frames only. So a service that ends because of the token has taken
whole frames and has answered each as asked. It has done the same as a service whose token is never set and
whose reader sends these frames and goes away.
-/

namespace CardLink

namespace VirtualCard

namespace Service

variable {κ W : Type} [CardChannel W κ]

/-- What handling those frames has done to a service, whatever the answers were. -/
structure Handled (payloads : List Bytes) (s s' : Service κ W) : Prop where
  fits : ∀ payload ∈ payloads, payload.length ≤ Frame.maxPayload
  taken : s.codec.source.undelivered = payloads.flatMap Frame.encode ++ s'.codec.source.undelivered
  answered : ∃ answers : List (Option Bytes), answers.map Option.isSome = payloads.map Frame.wantsAnswer ∧
    (∀ answer, some answer ∈ answers → answer.length ≤ Frame.maxPayload) ∧
    s'.codec.sink.accepted = s.codec.sink.accepted ++ answers.flatMap (·.elim [] Frame.encode)
  counted : s'.served = s.served + payloads.countP (·.length ≠ 1)

omit [CardChannel W κ] in
theorem Handled.append {payloads payloads' : List Bytes} {s s' s'' : Service κ W}
    (h : Handled payloads s s') (h' : Handled payloads' s' s'') :
    Handled (payloads ++ payloads') s s'' := by
  obtain ⟨answers, hasked, hfit, hwritten⟩ := h.answered
  obtain ⟨answers', hasked', hfit', hwritten'⟩ := h'.answered
  constructor
  · intro payload hmem
    rcases List.mem_append.mp hmem with hmem | hmem
    · exact h.fits payload hmem
    · exact h'.fits payload hmem
  · rw [h.taken, h'.taken, List.flatMap_append, List.append_assoc]
  · refine ⟨answers ++ answers', ?_, ?_, ?_⟩
    · rw [List.map_append, List.map_append, hasked, hasked']
    · intro answer hmem
      rcases List.mem_append.mp hmem with hmem | hmem
      · exact hfit answer hmem
      · exact hfit' answer hmem
    · rw [hwritten', hwritten, List.flatMap_append, List.append_assoc]
  · rw [h'.counted, h.counted, List.countP_append, Nat.add_assoc]

variable [CancelToken W]

/-- A service before and after it has waited, in which those bytes were taken from its stream. -/
structure Awaits (bytes : Bytes) (s s₁ : Service κ W) : Prop where
  channel : s₁.channel = s.channel
  world : s₁.world = (CancelToken.poll s.world).2
  served : s₁.served = s.served
  sink : s₁.codec.sink = s.codec.sink
  taken : s.codec.source.undelivered = bytes ++ s₁.codec.source.undelivered

/-- What a round can be. The token is polled first, and the channel is called only for a frame that was read. -/
inductive Turned (s : Service κ W) (r : Round κ W) : Prop where
  | cancelled (hset : (CancelToken.poll s.world).1 = true)
    (hround : r = .stop .cancelled { s with world := (CancelToken.poll s.world).2 })
  | waiting (hstarved : s.codec.isStarved = true)
    (hround : r = .stop .waiting { s with world := (CancelToken.poll s.world).2 })
  | frame (payload : Bytes) (c : Codec) (hawait : s.codec.awaitFrame = (.frame payload, c))
    (hround : r = respond payload { s with world := (CancelToken.poll s.world).2, codec := c })
  | idle (c : Codec) (hawait : s.codec.awaitFrame = (.idle, c))
    (hround : r = .next { s with world := (CancelToken.poll s.world).2, codec := c })
  | ended (ended : ServiceEnd) (c : Codec) (hawait : s.codec.awaitFrame = (.ended ended, c))
    (hround : r = .stop ended { s with world := (CancelToken.poll s.world).2, codec := c })

theorem round_turned (s : Service κ W) : Turned s (round s) := by
  unfold round
  by_cases hset : (CancelToken.poll s.world).1 = true
  · exact .cancelled hset (if_pos hset)
  · simp only
    rw [if_neg hset]
    by_cases hstarved : s.codec.isStarved = true
    · exact .waiting hstarved (if_pos hstarved)
    · rw [if_neg hstarved, serveFrame_eq]
      simp only
      rcases hawait : s.codec.awaitFrame with ⟨payload | _ | ended, c⟩
      · exact .frame payload c hawait rfl
      · exact .idle c hawait rfl
      · exact .ended ended c hawait rfl

/-- A round that goes on has taken nothing, or a whole frame that it has then responded to. -/
theorem round_next {s s' : Service κ W} (h : round s = .next s') :
    Awaits [] s s' ∨
    ∃ payload s₁, payload.length ≤ Frame.maxPayload ∧ Awaits (Frame.encode payload) s s₁ ∧
      respond payload s₁ = .next s' := by
  cases round_turned s with
  | cancelled _ hround => cases hround.symm.trans h
  | waiting _ hround => cases hround.symm.trans h
  | frame payload c hawait hround =>
    obtain ⟨hp, source, pending, rfl, htaken⟩ := Codec.awaitFrame_frame hawait
    let s₁ : Service κ W :=
      { s with world := (CancelToken.poll s.world).2, codec := { s.codec with source, pending } }
    have hawaits : Awaits (Frame.encode payload) s s₁ := ⟨rfl, rfl, rfl, rfl, htaken⟩
    exact Or.inr ⟨payload, s₁, hp, hawaits, hround.symm.trans h⟩
  | idle c hawait hround =>
    obtain ⟨source, rfl, htaken⟩ := Codec.awaitFrame_idle hawait
    cases hround.symm.trans h
    exact Or.inl ⟨rfl, rfl, rfl, rfl, htaken.symm⟩
  | ended _ c _ hround => cases hround.symm.trans h

/-- Only the token ends a service as cancelled, and then nothing was read in that round. -/
theorem round_cancelled {s s' : Service κ W} (h : round s = .stop .cancelled s') :
    s' = { s with world := (CancelToken.poll s.world).2 } := by
  cases round_turned s with
  | cancelled _ hround =>
    cases hround.symm.trans h
    rfl
  | waiting _ hround => cases hround.symm.trans h
  | frame payload c _ hround =>
    obtain ⟨e, he⟩ := respond_stop (hround.symm.trans h)
    cases he
  | idle c _ hround => cases hround.symm.trans h
  | ended ended c hawait hround =>
    cases hround.symm.trans h
    rcases Codec.awaitFrame_ended hawait with hgone | ⟨e, hfailed⟩
    · cases hgone
    · cases hfailed

theorem round_token_set {s : Service κ W} (h : (CancelToken.poll s.world).1 = true) :
    round s = .stop .cancelled { s with world := (CancelToken.poll s.world).2 } := by
  simp only [round, h, if_true]

/-- The way of a service from one state between rounds to another, with the frames that it responded to. -/
inductive Passes : List Bytes → Service κ W → Service κ W → Prop where
  | done (s : Service κ W) : Passes [] s s
  | idle {payloads : List Bytes} {s s' s'' : Service κ W} : Awaits [] s s' → Passes payloads s' s'' →
    Passes payloads s s''
  | frame {payload : Bytes} {payloads : List Bytes} {s s₁ s' s'' : Service κ W} :
    payload.length ≤ Frame.maxPayload → Awaits (Frame.encode payload) s s₁ →
    respond payload s₁ = .next s' → Passes payloads s' s'' → Passes (payload :: payloads) s s''

theorem serve_passes {s s' : Service κ W} {ended : ServiceEnd} (h : serve s = (ended, s')) :
    ∃ payloads s₁, Passes payloads s s₁ ∧ round s₁ = .stop ended s' := by
  -- every round that goes on leaves less to read
  induction hsize : s.codec.source.size using Nat.strongRecOn generalizing s with
  | ind size ih =>
    cases hround : round s with
    | stop ended' s₁ =>
      rw [serve_of_stop hround] at h
      cases h
      exact ⟨[], s, .done s, hround⟩
    | next s₁ =>
      rw [serve_of_next hround] at h
      obtain ⟨payloads, s₂, hpasses, hstop⟩ := ih _ (hsize ▸ round_size_lt hround) h rfl
      rcases round_next hround with hidle | ⟨payload, s₁', hp, hawaits, hrespond⟩
      · exact ⟨payloads, s₂, .idle hidle hpasses, hstop⟩
      · exact ⟨payload :: payloads, s₂, .frame hp hawaits hrespond hpasses, hstop⟩

theorem Passes.handled {payloads : List Bytes} {s s' : Service κ W} (h : Passes payloads s s') :
    Handled payloads s s' := by
  induction h with
  | done s => exact ⟨by simp, by simp, ⟨[], by simp⟩, by simp⟩
  | idle hawaits _ ih =>
    refine ⟨ih.fits, ?_, ?_, ?_⟩
    · rw [hawaits.taken]
      exact ih.taken
    · rw [← hawaits.sink]
      exact ih.answered
    · rw [← hawaits.served]
      exact ih.counted
  | @frame payload payloads s s₁ s' s'' hp hawaits hrespond _ ih =>
    have hsource := respond_source payload s₁
    rw [hrespond] at hsource
    obtain ⟨answer, hasked, hfits, hwritten, hcounted⟩ := respond_next hrespond
    have hframe : Handled [payload] s s' := by
      refine ⟨by simpa using hp, ?_, ⟨[answer], by simpa using hasked, ?_, ?_⟩, ?_⟩
      · rw [hawaits.taken, List.flatMap_singleton]
        exact congrArg (Frame.encode payload ++ ·.undelivered) hsource.symm
      · intro bytes hmem
        exact hfits bytes (List.mem_singleton.mp hmem).symm
      · rw [hwritten, hawaits.sink, List.flatMap_singleton]
      · rw [hcounted, hawaits.served]
    exact hframe.append ih

/-! ## The same run without a token -/

/-- A view of the world that the token is not in: to poll it changes nothing there, and what a call on the
channel does there depends on nothing else. Where polls change nothing, the world itself is such a view. -/
structure Tokenless (κ : Type) [CardChannel W κ] {V : Type} (view : W → V) : Prop where
  poll : ∀ w, view (CancelToken.poll w).2 = view w
  blind : Blind κ (fun w w' : W => view w = view w')

section

variable {V : Type} {view : W → V}

def Resembles (view : W → V) (w : W) (w₀ : Undisturbed W) : Prop := view w = view w₀.world

theorem Tokenless.undisturbed (h : Tokenless κ view) : Blind κ (Resembles view) := by
  constructor
  · intro command k w w₀ hview
    obtain ⟨hresult, hchannel, hworld⟩ := h.blind.transmit command k w w₀.world hview
    exact ⟨hresult, hchannel, hworld⟩
  · intro k w w₀ hview
    obtain ⟨hresult, hchannel, hworld⟩ := h.blind.atr k w w₀.world hview
    exact ⟨hresult, hchannel, hworld⟩

theorem Awaits.agrees {bytes : Bytes} {s s₁ : Service κ W} {s₀ : Service κ (Undisturbed W)}
    (h : Awaits bytes s s₁) (hview : Tokenless κ view) (hs : s.Agrees (Resembles view) s₀) :
    s₁.Agrees (Resembles view) s₀ := by
  constructor
  · rw [h.channel, hs.channel]
  · unfold Resembles
    rw [h.world, hview.poll]
    exact hs.world
  · rw [h.served, hs.served]
  · rw [h.sink, hs.sink]

/-- An undisturbed service follows over the frames; where the other only waits, it stays. -/
theorem Passes.follows {payloads : List Bytes} {s s' : Service κ W} (h : Passes payloads s s')
    (hview : Tokenless κ view) {s₀ : Service κ (Undisturbed W)} (hs : s.Agrees (Resembles view) s₀)
    (hdelivers : s₀.codec.source.Delivers (payloads.flatMap Frame.encode)) :
    ∃ s₀', Reaches s₀ s₀' ∧ s'.Agrees (Resembles view) s₀' ∧ s₀'.codec.source.Delivers [] := by
  induction h generalizing s₀ with
  | done s => exact ⟨s₀, .refl s₀, hs, hdelivers⟩
  | idle hawaits _ ih =>
    -- there is no pause in the other stream
    exact ih (hawaits.agrees hview hs) hdelivers
  | @frame payload payloads s s₁ s' s'' hp hawaits hrespond _ ih =>
    have hround := round_delivers (s := s₀) rfl hdelivers
    obtain ⟨events, pending, hserve, hrest⟩ := serveFrame_flows hdelivers.flows hp
    let s₀₁ : Service κ (Undisturbed W) :=
      { s₀ with codec := { s₀.codec with source := { s₀.codec.source with events }, pending } }
    have hs₁ : s₁.Agrees (Resembles view) s₀₁ :=
      let hagrees := hawaits.agrees hview hs
      ⟨hagrees.channel, hagrees.world, hagrees.served, hagrees.sink⟩
    have hresponses := respond_agrees hview.undisturbed hs₁ payload
    have hsource := respond_source payload s₀₁
    rw [hrespond] at hresponses
    rw [hserve] at hround
    change round s₀ = respond payload s₀₁ at hround
    generalize respond payload s₀₁ = r at hresponses hsource hround
    cases hresponses with
    | @next _ s₀' hnext =>
      have hsource : s₀'.codec.source = ⟨events, .eof⟩ := by rw [← hdelivers.ends]; exact hsource
      have hdelivers' : s₀'.codec.source.Delivers (payloads.flatMap Frame.encode) := by
        rw [hsource]
        exact hrest.delivers
      obtain ⟨s₀'', hreach, hagrees, hend⟩ := ih hnext hdelivers'
      exact ⟨s₀'', .round hround hreach, hagrees, hend⟩

end

/-- A service that ends because of its token has handled whole frames, as it would have without the token, and
it reads nothing once the token is set. -/
theorem serve_cancels_between_frames (s : Service κ W) :
    (∀ s₁, Reaches s s₁ → (CancelToken.poll s₁.world).1 = true →
      serve s = (.cancelled, { s₁ with world := (CancelToken.poll s₁.world).2 })) ∧
    ∀ s', serve s = (.cancelled, s') →
      (serve s).1.result = .ok () ∧
      ∃ payloads, Handled payloads s s' ∧
        ∀ (V : Type) (view : W → V), Tokenless κ view → ∀ s₀ : Service κ (Undisturbed W),
          s.Agrees (Resembles view) s₀ → s₀.codec.source.Delivers (payloads.flatMap Frame.encode) →
          (serve s₀).1 = .hungUp ∧ s'.Agrees (Resembles view) (serve s₀).2 := by
  constructor
  · intro s₁ hreach hset
    rw [serve_of_reaches hreach]
    exact serve_of_stop (round_token_set hset)
  · intro s' hserve
    obtain ⟨payloads, s₁, hpasses, hstop⟩ := serve_passes hserve
    obtain rfl := round_cancelled hstop
    obtain ⟨hfits, htaken, hanswered, hcounted⟩ := hpasses.handled
    refine ⟨by rw [hserve]; rfl, payloads, ⟨hfits, htaken, hanswered, hcounted⟩, ?_⟩
    intro V view hview s₀ hs hdelivers
    obtain ⟨s₀', hreach, hagrees, hend⟩ := hpasses.follows hview hs hdelivers
    have hgone := serve_gone (s := s₀') rfl hend
    rw [serve_of_reaches hreach, hgone]
    refine ⟨rfl, hagrees.channel, ?_, hagrees.served, hagrees.sink⟩
    unfold Resembles
    rw [hview.poll]
    exact hagrees.world

def tokenless (w : Scripted.World) : Scripted.World := { w with cancelled := false }

theorem tokenless_view : Tokenless Scripted.Card tokenless := by
  have hrecord : ∀ (event : Scripted.Event) (w w' : Scripted.World), tokenless w = tokenless w' →
      tokenless (w.record event) = tokenless (w'.record event) :=
    fun event _ _ h => congrArg (LocalHost.record event) h
  constructor
  · intro w
    rfl
  · constructor
    · intro command k w w' h
      refine ⟨rfl, rfl, ?_⟩
      simp only [CardChannel.transmit, Scripted.Card.transmit]
      split
      · exact hrecord _ w w' h
      · exact hrecord _ w w' h
    · intro k w w' h
      exact ⟨rfl, rfl, hrecord _ w w' h⟩

/-- A card that sets the token while it answers. Its reader pauses after it has powered the card, and asks for
the ATR after an APDU. -/
def tokenSetter : Service Scripted.Card Scripted.World where
  channel := { replies := [.raw [0x90, 0x00]], cancelAt := some 1 }
  codec := { source := { events := [.chunk [0, 1, 1], .failure { kind := .timedOut }, .chunk [0, 4, 0],
    .chunk [0xA4, 4, 0], .chunk [0, 1, 4]] } }
  world := {}

def tokenSetterPowered : Service Scripted.Card Scripted.World :=
  { tokenSetter.reading ⟨tokenSetter.codec.source.events.drop 1, .eof⟩ with
    world := { events := #[.atr] } }

/-- The service after the APDU. The request for the ATR was not read. -/
def tokenSetterAnswered : Service Scripted.Card Scripted.World where
  channel := { tokenSetter.channel with exchanges := 1 }
  codec := { source := ⟨[.chunk [0, 1, 4]], .eof⟩, sent := 1,
             sink := { accepted := [0, 2, 0x90, 0x00], flushes := 1 } }
  served := 1
  world := { cancelled := true, events := #[.atr, .transmit ⟨0, 0xA4, 4, 0, none, none⟩] }

/-- The same card with a token that nobody sets, before a reader that sends the first two frames only. -/
def tokenUnset : Service Scripted.Card (Undisturbed Scripted.World) where
  channel := tokenSetter.channel
  codec := { source := { events := [.chunk [0, 1, 1, 0, 4, 0, 0xA4, 4, 0]] } }
  world := ⟨{}⟩

set_option maxRecDepth 4000 in
theorem serve_cancels_between_frames_answered :
    serve tokenSetter = (.cancelled, tokenSetterAnswered) ∧
    tokenSetterAnswered.codec.source.undelivered = [0, 1, 4] ∧
    (serve tokenUnset).1 = .hungUp ∧ (serve tokenUnset).2.served = 1 ∧
    (serve tokenUnset).2.codec.sink.accepted = [0, 2, 0x90, 0x00] := by
  obtain ⟨hset, hcancelled⟩ := serve_cancels_between_frames tokenSetter
  have hpowered : round tokenSetter = .next tokenSetterPowered := rfl
  have hwaited : round tokenSetterPowered = .next
      (tokenSetterPowered.reading ⟨tokenSetter.codec.source.events.drop 2, .eof⟩) := rfl
  have hanswered : round (tokenSetterPowered.reading ⟨tokenSetter.codec.source.events.drop 2, .eof⟩) =
      .next tokenSetterAnswered := rfl
  have hserve : serve tokenSetter = (.cancelled, tokenSetterAnswered) :=
    hset _ (.round hpowered (.round hwaited (.round hanswered (.refl _)))) rfl
  obtain ⟨-, payloads, hhandled, halike⟩ := hcancelled _ hserve
  have htaken : [0, 1, 1, 0, 4, 0, 0xA4, 4, 0] ++ [0, 1, 4] = payloads.flatMap Frame.encode ++ [0, 1, 4] :=
    hhandled.taken
  have hframes : [0, 1, 1, 0, 4, 0, 0xA4, 4, 0] = payloads.flatMap Frame.encode :=
    List.append_cancel_right htaken
  have hdelivers : tokenUnset.codec.source.Delivers (payloads.flatMap Frame.encode) :=
    hframes ▸ ⟨by decide, rfl, rfl⟩
  obtain ⟨hend, hagrees⟩ := halike _ tokenless tokenless_view tokenUnset ⟨rfl, rfl, rfl, rfl⟩ hdelivers
  exact ⟨hserve, rfl, hend, hagrees.served.symm, congrArg Sink.accepted hagrees.sink.symm⟩

end Service
end VirtualCard
end CardLink
