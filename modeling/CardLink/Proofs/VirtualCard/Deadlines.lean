import CardLink.Proofs.VirtualCard.FrameByFrame

/-!
# Deadlines while serving

A deadline between two frames only wakes the service, which then waits for the same frame again. So a
service on a stream with such pauses goes the same way as on the stream without them. A deadline inside a
frame ends the service, which has then done what the complete frames before it ask for and nothing more.
-/

namespace CardLink

namespace VirtualCard

namespace Service

variable {κ W : Type} [CardChannel W κ] [CancelToken W]

/-- Two services that have the same frames to come, one on a flowing stream that then ends with one part of a
frame, the other on a paused stream that then has another part and goes on otherwise. -/
structure Alongside (payloads : List Bytes) (part part' : Bytes) (after : List ReadEvent)
    (atEnd : SourceEnd) (s s' : Service κ W) : Prop where
  agrees : s.Agrees (fun w w' => w = w') s'
  delivers : s.codec.source.Delivers (payloads.flatMap Frame.encode ++ part)
  paused : Source.Paused after (payloads.flatMap Frame.encode ++ part') s'.codec.source.events
  ends : s'.codec.source.atEnd = atEnd
  uncancelled : s.Uncancelled

section

variable {s s' : Service κ W} {payloads : List Bytes} {part part' : Bytes} {after : List ReadEvent}
  {atEnd : SourceEnd}

theorem Alongside.polls (h : Alongside payloads part part' after atEnd s s')
    (hafter : ∀ sent, Source.isStarved ⟨after, atEnd⟩ sent = false) :
    round s = serveFrame s ∧ round s' = serveFrame s' := by
  have hpoll : CancelToken.poll s.world = (false, s.world) := h.uncancelled s (.refl s)
  have hpoll' : CancelToken.poll s'.world = (false, s'.world) := h.agrees.world ▸ hpoll
  constructor
  · exact round_delivers hpoll h.delivers
  · refine round_of_poll hpoll' ?_
    have hsource : s'.codec.source = ⟨s'.codec.source.events, atEnd⟩ := by rw [← h.ends]
    unfold Codec.isStarved
    rw [hsource]
    exact h.paused.not_starved (hafter _)

/-- A pause moves the second service only. A frame moves both or ends both. -/
theorem round_alongside (h : Alongside payloads part part' after atEnd s s')
    (hpayloads : ∀ payload ∈ payloads, payload.length ≤ Frame.maxPayload)
    (hpart' : Frame.Beginning part')
    (hafter : ∀ sent, Source.isStarved ⟨after, atEnd⟩ sent = false) :
    (∃ s₁', round s' = .next s₁' ∧ Alongside payloads part part' after atEnd s s₁') ∨
    (∃ payload rest s₁ s₁', payloads = payload :: rest ∧ round s = .next s₁ ∧ round s' = .next s₁' ∧
      Alongside rest part part' after atEnd s₁ s₁') ∨
    (∃ e s₁ s₁', round s = .stop (.failed e) s₁ ∧ round s' = .stop (.failed e) s₁' ∧
      s₁.Agrees (fun w w' => w = w') s₁') ∨
    payloads = [] ∧ Source.Flows part' after s'.codec.source.events := by
  obtain ⟨hround, hround'⟩ := h.polls hafter
  have hpause : ∀ e next, IoKind.isDeadline e.kind →
      Source.Flows [] (.failure e :: next) s'.codec.source.events →
      Source.Paused after (payloads.flatMap Frame.encode ++ part') next →
      ∃ s₁', round s' = .next s₁' ∧ Alongside payloads part part' after atEnd s s₁' := by
    intro e next he hflows hnext
    rw [serveFrame_eq, Codec.awaitFrame_pause he hflows] at hround'
    exact ⟨_, hround', ⟨h.agrees.channel, h.agrees.world, h.agrees.served, h.agrees.sink⟩, h.delivers,
      hnext, h.ends, h.uncancelled⟩
  cases payloads with
  | nil =>
    rcases h.paused.part hpart' with ⟨e, next, he, hflows, hnext⟩ | hflows
    · exact Or.inl (hpause e next he hflows hnext)
    · exact Or.inr (Or.inr (Or.inr ⟨rfl, hflows⟩))
  | cons payload payloads =>
    have hdelivers := h.delivers
    have hpaused := h.paused
    rw [List.flatMap_cons, List.append_assoc] at hdelivers hpaused
    have hp := hpayloads payload List.mem_cons_self
    rcases hpaused.frame hp with ⟨e, next, he, hflows, hnext⟩ | ⟨more, after', hflows, hleft⟩
    · refine Or.inl (hpause e next he hflows ?_)
      rwa [List.flatMap_cons, List.append_assoc]
    · obtain ⟨events, pending, hserve, hrest⟩ := serveFrame_flows hdelivers.flows hp
      obtain ⟨events', pending', hserve', hmore⟩ := serveFrame_flows hflows hp
      rw [hserve] at hround
      rw [hserve'] at hround'
      -- both respond to the same frame, whatever is left of their streams
      let s₁ : Service κ W :=
        { s with codec := { s.codec with source := { s.codec.source with events }, pending } }
      let s₁' : Service κ W :=
        { s' with codec :=
          { s'.codec with source := { s'.codec.source with events := events' }, pending := pending' } }
      have hagrees : s₁.Agrees (fun w w' => w = w') s₁' :=
        ⟨h.agrees.channel, h.agrees.world, h.agrees.served, h.agrees.sink⟩
      have hresponses := respond_agrees blind_eq hagrees payload
      have hsource := respond_source payload s₁
      have hsource' := respond_source payload s₁'
      change round s = respond payload s₁ at hround
      change round s' = respond payload s₁' at hround'
      generalize hresponse : respond payload s₁ = r at hresponses hsource hround
      generalize respond payload s₁' = r' at hresponses hsource' hround'
      cases hresponses with
      | @stop ended s₂ s₂' hends =>
        obtain ⟨e, rfl⟩ := respond_stop hresponse
        exact Or.inr (Or.inr (Or.inl ⟨e, s₂, s₂', hround, hround', hends⟩))
      | @next s₂ s₂' hnext =>
        have hsource : s₂.codec.source = ⟨events, .eof⟩ := by rw [← h.delivers.ends]; exact hsource
        have hsource' : s₂'.codec.source = ⟨events', atEnd⟩ := by rw [← h.ends]; exact hsource'
        refine Or.inr (Or.inl ⟨payload, payloads, s₂, s₂', rfl, hround, hround', hnext, ?_, ?_, ?_,
          h.uncancelled.next hround⟩)
        · rw [hsource]
          exact hrest.delivers
        · rw [hsource']
          exact hleft events' hmore
        · rw [hsource']

/-- Both services fail at the same frame, or both come to the end of the frames with the same done. The
induction is on the paused stream, which a pause shortens too. -/
theorem runs_alongside (h : Alongside payloads part part' after atEnd s s')
    (hpayloads : ∀ payload ∈ payloads, payload.length ≤ Frame.maxPayload)
    (hpart' : Frame.Beginning part')
    (hafter : ∀ sent, Source.isStarved ⟨after, atEnd⟩ sent = false) :
    (∃ e s₁ s₁', serve s = (.failed e, s₁) ∧ serve s' = (.failed e, s₁') ∧
      s₁.Agrees (fun w w' => w = w') s₁') ∨
    ∃ s₁ s₁', Reaches s s₁ ∧ Reaches s' s₁' ∧ Alongside [] part part' after atEnd s₁ s₁' ∧
      Source.Flows part' after s₁'.codec.source.events := by
  induction hsize : s'.codec.source.size using Nat.strongRecOn generalizing s s' payloads with
  | ind size ih =>
    rcases round_alongside h hpayloads hpart' hafter with ⟨s₁', hround', h'⟩ |
      ⟨payload, rest, s₁, s₁', rfl, hround, hround', h'⟩ | ⟨e, s₁, s₁', hround, hround', hagrees⟩ |
      ⟨rfl, hflows⟩
    · rcases ih _ (hsize ▸ round_size_lt hround') h' hpayloads rfl with
        ⟨e, s₂, s₂', hrun, hrun', hagrees⟩ | ⟨s₂, s₂', hreach, hreach', hend⟩
      · exact Or.inl ⟨e, s₂, s₂', hrun, (serve_of_next hround').trans hrun', hagrees⟩
      · exact Or.inr ⟨s₂, s₂', hreach, .round hround' hreach', hend⟩
    · rcases ih _ (hsize ▸ round_size_lt hround') h'
          (fun q hq => hpayloads q (List.mem_cons_of_mem _ hq)) rfl with
        ⟨e, s₂, s₂', hrun, hrun', hagrees⟩ | ⟨s₂, s₂', hreach, hreach', hend⟩
      · exact Or.inl ⟨e, s₂, s₂', (serve_of_next hround).trans hrun,
          (serve_of_next hround').trans hrun', hagrees⟩
      · exact Or.inr ⟨s₂, s₂', .round hround hreach, .round hround' hreach', hend⟩
    · exact Or.inl ⟨e, s₁, s₁', serve_of_stop hround, serve_of_stop hround', hagrees⟩
    · exact Or.inr ⟨s, s', .refl s, .refl s', h, hflows⟩

omit [CardChannel W κ] [CancelToken W] in
theorem Agrees.progress (h : s.Agrees (fun w w' => w = w') s') : s.progress = s'.progress := by
  simp only [Service.progress, h.channel, h.world, h.served, h.sink]

theorem serve_lost {part : Bytes} {stop : ReadStop} {left : List ReadEvent}
    (hround : round s = serveFrame s) (h : Source.Flows part after s.codec.source.events)
    (hpart : Frame.Beginning part) (hne : part ≠ [])
    (hstop : Source.StopsAt s.codec.source.atEnd after stop left) (hbreaks : stop.Breaks) :
    ∃ s₁, serve s =
      (.failed (.transport (stop.loss (Frame.underway part).1 (Frame.underway part).2)), s₁) ∧
      s₁.progress = s.progress := by
  obtain ⟨source, pending, hawait⟩ := Codec.awaitFrame_lost h hpart hne hstop hbreaks
  rw [serveFrame_eq, hawait] at hround
  exact ⟨_, serve_of_stop hround, rfl⟩

theorem Alongside.both_end (h : Alongside [] part part [] .eof s s') (hpart : Frame.Beginning part)
    (hflows : Source.Flows part [] s'.codec.source.events) :
    (serve s').1 = (serve s).1 ∧ (serve s').2.progress = (serve s).2.progress := by
  obtain ⟨hround, hround'⟩ := h.polls fun _ => rfl
  have hdelivers : s.codec.source.Delivers part := h.delivers
  have hsource' : s'.codec.source = ⟨s'.codec.source.events, .eof⟩ := by rw [← h.ends]
  have hdelivers' : s'.codec.source.Delivers part := by
    rw [hsource']
    exact hflows.delivers
  by_cases hne : part = []
  · subst hne
    have hunset := h.uncancelled s (.refl s)
    have hunset' : CancelToken.Unset s'.world := h.agrees.world ▸ hunset
    rw [serve_gone hunset hdelivers, serve_gone hunset' hdelivers']
    exact ⟨rfl, h.agrees.progress.symm⟩
  · have hstop : Source.StopsAt s.codec.source.atEnd [] .gone [] := by
      rw [hdelivers.ends]
      exact Source.stopsAt_eof
    have hstop' : Source.StopsAt s'.codec.source.atEnd [] .gone [] := by
      rw [h.ends]
      exact Source.stopsAt_eof
    obtain ⟨s₁, hrun, hprogress⟩ := serve_lost hround hdelivers.flows hpart hne hstop .gone
    obtain ⟨s₁', hrun', hprogress'⟩ := serve_lost hround' hflows hpart hne hstop' .gone
    rw [hrun, hrun']
    exact ⟨rfl, hprogress'.trans (h.agrees.progress.symm.trans hprogress.symm)⟩

theorem Alongside.other_stalls {e : IoError} {rest : List ReadEvent}
    (h : Alongside [] [] part (.failure e :: rest) atEnd s s') (he : e.kind.isDeadline)
    (hpart : Frame.Beginning part) (hne : part ≠ [])
    (hflows : Source.Flows part (.failure e :: rest) s'.codec.source.events) :
    (serve s).1 = .hungUp ∧
    (serve s').1 = .failed (.transport (.stalled (Frame.underway part).1 (Frame.underway part).2)) ∧
    (serve s').2.progress = (serve s).2.progress := by
  obtain ⟨-, hround'⟩ := h.polls fun _ => rfl
  obtain ⟨s₁', hrun', hprogress'⟩ := serve_lost hround' hflows hpart hne
    (Source.stopsAt_deadline he rest) (.deadline he)
  rw [serve_gone (h.uncancelled s (.refl s)) h.delivers, hrun']
  exact ⟨rfl, rfl, hprogress'.trans h.agrees.progress.symm⟩

end

variable {s : Service κ W} {bytes : Bytes} {steady : Source}

/-- Deadlines between frames change nothing that a service does. A deadline inside a frame ends it with how much
of the part under way was there, and with the same done as the complete frames before alone have done, unless
one of these ended it already. -/
theorem serve_meets_deadlines (hsteady : steady.Delivers bytes)
    (huncancelled : (s.reading steady).Uncancelled) :
    (∀ paused : Source, Source.Paused [] bytes paused.events → paused.atEnd = .eof →
      (serve (s.reading paused)).1 = (serve (s.reading steady)).1 ∧
      (serve (s.reading paused)).2.progress = (serve (s.reading steady)).2.progress) ∧
    ∀ (payloads : List Bytes) (part : Bytes) (e : IoError) (rest : List ReadEvent) (stalling : Source),
      bytes = payloads.flatMap Frame.encode → (∀ payload ∈ payloads, payload.length ≤ Frame.maxPayload) →
      Frame.Beginning part → part ≠ [] → e.kind.isDeadline →
      Source.Paused (.failure e :: rest) (bytes ++ part) stalling.events →
      (serve (s.reading stalling)).1 =
        (if (serve (s.reading steady)).1 = .hungUp then
          .failed (.transport (.stalled (Frame.underway part).1 (Frame.underway part).2))
        else (serve (s.reading steady)).1) ∧
      (serve (s.reading stalling)).2.progress = (serve (s.reading steady)).2.progress := by
  constructor
  · intro paused hpaused hends
    obtain ⟨hjoin, hpart⟩ := Frame.join_split bytes
    have halong : Alongside (Frame.split bytes).1 (Frame.split bytes).2 (Frame.split bytes).2 [] .eof
        (s.reading steady) (s.reading paused) := by
      refine ⟨⟨rfl, rfl, rfl, rfl⟩, ?_, ?_, hends, huncancelled⟩
      · rw [hjoin]
        exact hsteady
      · rw [hjoin]
        exact hpaused
    rcases runs_alongside halong (Frame.length_split_le bytes) hpart (fun _ => rfl) with
      ⟨e, s₁, s₁', hrun, hrun', hagrees⟩ | ⟨s₁, s₁', hreach, hreach', hend, hflows⟩
    · rw [hrun, hrun']
      exact ⟨rfl, hagrees.progress.symm⟩
    · rw [serve_of_reaches hreach, serve_of_reaches hreach']
      exact hend.both_end hpart hflows
  · intro payloads part e rest stalling hbytes hpayloads hpart hne he hpaused
    have halong : Alongside payloads [] part (.failure e :: rest) stalling.atEnd
        (s.reading steady) (s.reading stalling) := by
      refine ⟨⟨rfl, rfl, rfl, rfl⟩, ?_, ?_, rfl, huncancelled⟩
      · rw [List.append_nil, ← hbytes]
        exact hsteady
      · rw [← hbytes]
        exact hpaused
    rcases runs_alongside halong hpayloads hpart (fun _ => rfl) with
      ⟨e, s₁, s₁', hrun, hrun', hagrees⟩ | ⟨s₁, s₁', hreach, hreach', hend, hflows⟩
    · rw [hrun, hrun']
      exact ⟨rfl, hagrees.progress.symm⟩
    · obtain ⟨hgone, hstalled, hprogress⟩ := hend.other_stalls he hpart hne hflows
      rw [serve_of_reaches hreach, serve_of_reaches hreach', hgone, if_pos rfl]
      exact ⟨hstalled, hprogress⟩

/-- A service before a reader that powers the card and asks for its ATR. -/
def poweredCard : Service Scripted.Card (Undisturbed Scripted.World) where
  channel := {}
  codec := { source := {} }
  world := ⟨{}⟩

def powerAndAsk : Source := { events := [.chunk [0, 1, 1, 0], .chunk [1, 4]] }

/-- The same bytes, with deadlines before, between and after the frames. -/
def powerPauseAsk : Source where
  events := [.failure { kind := .wouldBlock }, .chunk [0, 1, 1], .failure { kind := .timedOut },
    .failure { kind := .wouldBlock }, .chunk [0], .chunk [1, 4], .failure { kind := .timedOut }]

/-- The reader stalls in the header of a third frame. -/
def powerAskStall : Source where
  events := [.chunk [0, 1, 1, 0, 1, 4], .failure { kind := .timedOut }, .chunk [0],
    .failure { kind := .wouldBlock }, .chunk [1, 4]]

theorem serve_meets_deadlines_ask :
    (serve (poweredCard.reading powerPauseAsk)).1 = .hungUp ∧
    (serve (poweredCard.reading powerPauseAsk)).2.codec.sink.accepted = [0, 2, 0x3B, 0x00] ∧
    (serve (poweredCard.reading powerAskStall)).1 = .failed (.transport (.stalled 2 1)) ∧
    (serve (poweredCard.reading powerAskStall)).2.world.world.events = #[.atr, .atr] := by
  have hsteady : powerAndAsk.Delivers [0, 1, 1, 0, 1, 4] := ⟨by decide, rfl, rfl⟩
  obtain ⟨hpauses, hstalls⟩ :=
    serve_meets_deadlines hsteady (uncancelled_undisturbed (poweredCard.reading powerAndAsk))
  have hfed : (poweredCard.reading powerAndAsk).Fed [0, 1, 1, 0, 1, 4] .eof := by
    refine ⟨⟨?_, rfl, rfl⟩, ⟨?_, ?_, rfl, rfl⟩⟩
    · simp [poweredCard, reading, powerAndAsk]
    · simp [poweredCard, reading]
    · simp [poweredCard, reading]
  have hsplit : Frame.split [0, 1, 1, 0, 1, 4] = ([[1], [4]], []) := by
    simp [Frame.split, Frame.headerLength]
  obtain ⟨hprogress, hend⟩ := serve_frames hfed fun _ => rfl
  rw [hsplit] at hprogress hend
  have hlast : Source.Paused [] [0, 1, 4] [.chunk [0], .chunk [1, 4], .failure { kind := .timedOut }] :=
    .pause [[4]] (by decide) ⟨[.chunk [0], .chunk [1, 4]], rfl, by decide, rfl⟩ rfl (.flowing (.nil _))
  have hbetween : Source.Paused [] [0, 1, 1, 0, 1, 4] (powerPauseAsk.events.drop 1) :=
    .pause [[1]] (by decide) ⟨[.chunk [0, 1, 1]], rfl, by decide, rfl⟩ rfl
      (.pause [] (by simp) (.nil _) rfl hlast)
  have hpaused : Source.Paused [] [0, 1, 1, 0, 1, 4] powerPauseAsk.events :=
    .pause [] (by simp) (.nil _) rfl hbetween
  have hpart : Source.Paused (.failure { kind := .wouldBlock } :: [.chunk [1, 4]]) [0]
      (powerAskStall.events.drop 2) := .flowing ⟨[.chunk [0]], rfl, by decide, rfl⟩
  have hstalling : Source.Paused (.failure { kind := .wouldBlock } :: [.chunk [1, 4]])
      ([0, 1, 1, 0, 1, 4] ++ [0]) powerAskStall.events :=
    .pause [[1], [4]] (by decide) ⟨[.chunk [0, 1, 1, 0, 1, 4]], rfl, by decide, rfl⟩ rfl hpart
  obtain ⟨hend', hprogress'⟩ := hpauses powerPauseAsk hpaused rfl
  obtain ⟨hstalled, hprogress''⟩ := hstalls [[1], [4]] [0] { kind := .wouldBlock } [.chunk [1, 4]]
    powerAskStall rfl (by decide) (.halfHeader 0) (by simp) rfl hstalling
  rw [hend] at hend' hstalled
  rw [hprogress] at hprogress' hprogress''
  refine ⟨hend', ?_, hstalled, ?_⟩
  · exact congrArg Progress.written hprogress'
  · exact congrArg (fun p => p.world.world.events) hprogress''

end Service
end VirtualCard
end CardLink
