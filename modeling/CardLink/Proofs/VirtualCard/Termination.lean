import CardLink.Proofs.VirtualCard.Cancellation
import CardLink.Proofs.Wire.SingleReads

/-!
# Services end

A service before a reader whose script is finite and ends with the end of the stream comes to an end, whatever its
sink and its channel do and whatever lengths the frames declare. Each turn of its loop is the last one or takes at
least a byte or an event from the script, and so does each read within a turn.
-/

namespace CardLink

namespace VirtualCard.Service

variable {κ W : Type} [CardChannel W κ] [CancelToken W] {s s' : Service κ W}

/-- One turn of the loop. It does not ask whether anything more will arrive. -/
def turn (s : Service κ W) : Round κ W :=
  let (cancelled, world) := CancelToken.poll s.world
  if cancelled then .stop .cancelled { s with world } else serveFrame { s with world }

/-- What the loop comes to, if it ends within that many turns. -/
def serveWithin : Nat → Service κ W → Option (ServiceEnd × Service κ W)
  | 0, _ => none
  | turns + 1, s =>
    match turn s with
    | .stop ended s' => some (ended, s')
    | .next s' => serveWithin turns s'

omit [CardChannel W κ] [CancelToken W] in
theorem not_starved_of_unprompted (h : s.codec.source.Unprompted) : s.codec.isStarved = false := by
  unfold Codec.isStarved Source.isStarved
  rw [h.ends]
  split
  · rfl
  · next frames rest hevents => exact absurd (hevents ▸ List.mem_cons_self) (h.events frames)
  · rfl

theorem turn_eq_round (h : s.codec.source.Unprompted) : turn s = round s := by
  have hstarved := not_starved_of_unprompted h
  unfold turn round
  simp only [hstarved]
  rfl

/-- What no read changes about a source, no round changes. -/
theorem round_source {P : Source → Prop} (hread : ∀ s expected sent, P s → P (Source.read expected sent s).2)
    (s : Service κ W) (h : P s.codec.source) : P (round s).service.codec.source := by
  have hsource : P s.codec.awaitFrame.2.source :=
    Codec.awaitFrame_keeps (P := fun c => P c.source) (Codec.perform_source hread .readCommand)
      (Codec.perform_source hread .readData) h
  cases round_turned s with
  | cancelled _ hround =>
    rw [hround]
    exact h
  | waiting _ hround =>
    rw [hround]
    exact h
  | frame payload c hawait hround =>
    rw [hawait] at hsource
    rw [hround, respond_source]
    exact hsource
  | idle c hawait hround =>
    rw [hawait] at hsource
    rw [hround]
    exact hsource
  | ended ended c hawait hround =>
    rw [hawait] at hsource
    rw [hround]
    exact hsource

theorem round_undelivered (h : round s = .next s') : s'.codec.source.undelivered <:+ s.codec.source.undelivered := by
  rcases round_next h with hidle | ⟨payload, s₁, -, hawaits, hrespond⟩
  · exact ⟨[], hidle.taken.symm⟩
  · have hsource := respond_source payload s₁
    rw [hrespond] at hsource
    refine ⟨Frame.encode payload, ?_⟩
    rw [hawaits.taken]
    exact congrArg (Frame.encode payload ++ ·.undelivered) hsource

/-- A round that is not the last takes at least a byte or an event from the script. -/
theorem round_consumes (h : round s = .next s') : s.codec.source.Consumes s'.codec.source := by
  have hevents := round_source (P := fun source => source.events.length ≤ s.codec.source.events.length)
    (fun source expected sent hle => Nat.le_trans (source.read_events_le expected sent) hle) s (Nat.le_refl _)
  rw [h] at hevents
  exact Source.consumes_of_size (round_undelivered h) hevents (round_size_lt h)

theorem round_unprompted (hs : s.codec.source.Unprompted) (h : round s = .next s') : s'.codec.source.Unprompted := by
  have hsource := round_source (fun source expected sent hu => hu.read expected sent) s hs
  rwa [h] at hsource

theorem Reaches.unprompted (h : Reaches s s') (hs : s.codec.source.Unprompted) : s'.codec.source.Unprompted := by
  induction h with
  | refl => exact hs
  | round hround _ ih => exact ih (round_unprompted hs hround)

/-- A service that is not starved does not end by waiting. -/
theorem round_ne_waiting {ended : ServiceEnd} (hs : s.codec.isStarved = false) (h : round s = .stop ended s') :
    ended ≠ .waiting := by
  cases round_turned s with
  | cancelled _ hround =>
    cases hround.symm.trans h
    simp
  | waiting hstarved _ =>
    rw [hs] at hstarved
    cases hstarved
  | frame payload c _ hround =>
    obtain ⟨e, rfl⟩ := respond_stop (hround.symm.trans h)
    simp
  | idle c _ hround => cases hround.symm.trans h
  | ended ended' c hawait hround =>
    cases hround.symm.trans h
    rcases Codec.awaitFrame_ended hawait with rfl | ⟨e, rfl⟩
    · simp
    · simp

/-- As many turns as there are bytes and events in the script, and one for the end, are enough. -/
theorem serveWithin_eq_serve (hs : s.codec.source.Unprompted) {turns : Nat} (hturns : s.codec.source.size < turns) :
    serveWithin turns s = some (serve s) ∧ (serve s).1 ≠ .waiting := by
  induction turns generalizing s with
  | zero => omega
  | succ turns ih =>
    have hturn := turn_eq_round hs
    unfold serveWithin
    cases hround : round s with
    | stop ended s₁ =>
      rw [hround] at hturn
      rw [hturn, serve_of_stop hround]
      exact ⟨rfl, round_ne_waiting (not_starved_of_unprompted hs) hround⟩
    | next s₁ =>
      rw [hturn, hround, serve_of_next hround]
      have hlt := round_size_lt hround
      exact ih (round_unprompted hs hround) (by omega)

/-- Before a finite script the loop of a service ends, and so does every loop that fills a buffer within it. Neither
goes on without taking a byte or an event from the script. -/
theorem serve_terminates (hs : s.codec.source.Unprompted) :
    serveWithin (s.codec.source.size + 1) s = some (serve s) ∧ (serve s).1 ≠ .waiting ∧
    (∀ s₁, Reaches s s₁ →
      (∃ ended s₂, turn s₁ = .stop ended s₂ ∧ serve s = (ended, s₂)) ∨
        ∃ s₂, turn s₁ = .next s₂ ∧ s₁.codec.source.Consumes s₂.codec.source) ∧
    ∀ source : Source, source.Unprompted → ∀ sent wanted,
      Source.accumulate sent source.atEnd (source.size + 1) wanted source.events =
        some (Source.fill sent source.atEnd wanted source.events) ∧
      (source.read wanted sent).2.Unprompted ∧
      ∀ most, 0 < most →
        source.events = [] ∧ (Source.readOnce sent source.atEnd most source.events).1 = .error .gone ∨
          source.Consumes { source with events := (Source.readOnce sent source.atEnd most source.events).2 } := by
  obtain ⟨hends, hwaiting⟩ := serveWithin_eq_serve hs (Nat.lt_succ_self _)
  refine ⟨hends, hwaiting, ?_, ?_⟩
  · intro s₁ hreach
    have hturn := turn_eq_round (hreach.unprompted hs)
    cases hround : round s₁ with
    | stop ended s₂ =>
      refine Or.inl ⟨ended, s₂, hturn.trans hround, ?_⟩
      rw [serve_of_reaches hreach, serve_of_stop hround]
    | next s₂ => exact Or.inr ⟨s₂, hturn.trans hround, round_consumes hround⟩
  · intro source hu sent wanted
    refine ⟨Source.accumulate_eq_fill sent source.atEnd wanted (Nat.lt_succ_self _), hu.read wanted sent, ?_⟩
    intro most hmost
    exact hu.readOnce_consumes hmost sent

/-- A service before a reader that pauses, sends an APDU without bytes in three pieces, with an interruption between
them, and goes away inside a frame of the largest length. -/
def abandonedService : Service Scripted.Card Scripted.World where
  channel := {}
  codec := { source := { events := [.failure { kind := .timedOut }, .chunk [0], .failure { kind := .interrupted },
    .chunk [0, 0xFF], .chunk [0xFF, 1, 2], .chunk []] } }
  world := {}

theorem serve_terminates_abandoned :
    abandonedService.codec.source.Unprompted ∧
    (serve abandonedService).1 = .failed (.transport (.connectionClosed 65535 2)) ∧
    (serve abandonedService).2.served = 1 := by
  have hunprompted : abandonedService.codec.source.Unprompted := by
    constructor
    · intro frames hmem
      simp [abandonedService] at hmem
    · rfl
  obtain ⟨hends, -⟩ := serve_terminates hunprompted
  have hserve : ∃ s, serveWithin (abandonedService.codec.source.size + 1) abandonedService =
      some (.failed (.transport (.connectionClosed 65535 2)), s) ∧ s.served = 1 := ⟨_, rfl, rfl⟩
  obtain ⟨s, hwithin, hserved⟩ := hserve
  rw [hends, Option.some.injEq] at hwithin
  rw [hwithin]
  exact ⟨hunprompted, rfl, hserved⟩

end VirtualCard.Service
end CardLink
