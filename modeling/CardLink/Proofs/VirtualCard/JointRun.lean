import CardLink.Proofs.VirtualCard.Exchange
import CardLink.VirtualCard.LocalHost

/-!
# A session joined to a service

Two streams that lose nothing join a reader's session to a service. The bytes that the session writes do
not depend on what it reads, so the service meets the same frames however the streams are cut; what it
writes on each of them is what the session reads next. The reader thereby makes its calls on the channel
behind the service.
-/

namespace CardLink.VirtualCard

/-- A network with one peer, which can be dialled and which calls. It remembers what was written to it
when the connection is ended. -/
structure Wire where
  incoming : Source
  sink : Sink := {}
  written : Option Bytes := none

instance : Network Wire where
  resolve _ port w := (.ok [⟨.loopback, port⟩], w)
  dial _ _ w := (.ok ⟨0, w.incoming, w.sink⟩, w)
  bind port w := (.ok port, w)
  accept _ _ w := (.ok ⟨0, w.incoming, w.sink⟩, w)
  hangUp _ codec w := { w with written := some codec.sink.accepted }
  unbind _ w := w

namespace CardCall

variable {W : Type} [Network W]

/-- The calls write their frames, whatever is read. -/
theorem performAll_writes {calls : List CardCall} {s : Session} {c : Codec} {w : W}
    (hs : s.IsOn c) (ht : c.sink.TakesAll) (hc : ∀ call ∈ calls, call.Encodable) :
    ∃ c', (performAll calls s w).2.1.IsOn c' ∧ (performAll calls s w).2.2 = w ∧
      c'.sink.TakesAll ∧
      c'.sink.accepted = c.sink.accepted ++ (calls.map payload).flatMap Frame.encode := by
  induction calls generalizing s c with
  | nil => exact ⟨c, hs, rfl, ht, by simp⟩
  | cons call calls ih =>
    obtain ⟨c₁, hw, hwrote⟩ := write_takesAll (hc call List.mem_cons_self) ht
    obtain ⟨source, hread⟩ := Codec.readResponse_source c₁
    have hx : (Session.exchange call.write c).2 = { c₁ with source } := by
      rw [Session.exchange, hw]
      exact hread
    obtain ⟨-, hs', hworld⟩ := perform_isOn hs call w
    rw [hx] at hs'
    obtain ⟨c', hon, hw', ht', hacc⟩ := ih hs' hwrote.takesAll
      (fun q hq => hc q (List.mem_cons_of_mem _ hq))
    refine ⟨c', ?_, ?_, ht', ?_⟩
    · rw [performAll_cons, hworld]
      exact hon
    · rw [performAll_cons, hworld]
      exact hw'
    · rw [hacc]
      simp only [hwrote.accepted, List.map_cons, List.flatMap_cons, List.append_assoc]

/-- The calls read what the service writes on their frames, as long as that has arrived in time.
The induction carries that what the service has written so far is just what was read. -/
theorem performAll_reads {κ V : Type} [CardChannel V κ] [CancelToken V] {limit : Nat}
    {calls after : List CardCall} {tail : List Bytes} {s : Session} {c : Codec} {w : W}
    {p : Progress κ V} (hs : s.IsOn c) (ht : c.sink.TakesAll) (hc : ∀ call ∈ calls, call.Encodable)
    (hlimit : limit ≤ Frame.maxPayload) (hmax : limit ≤ c.maxResponse) (h2 : 2 ≤ limit)
    (hdep : Dependable limit (calls.map arriving ++ after) p.channel p.world)
    (hsteady : Source.Steady c.source.events)
    (harr : ∀ n, p.written ++ Source.arrived (c.sent + n) c.source.events =
      (p.frames ((calls.map payload ++ tail).take n)).2.written) :
    (performAll calls s w).1 =
      (performAll (calls.map arriving) p.channel p.world).1.map fun outcome =>
        .ok (covered outcome) := by
  induction calls generalizing s c p with
  | nil => rfl
  | cons call calls ih =>
    obtain ⟨-, hfits, hrest⟩ := hdep
    have hcall := hc call List.mem_cons_self
    have hf := frame_payload hcall hlimit h2 hfits
    have hnone : (p.frame call.payload).1 = none := by rw [hf]
    obtain ⟨c₁, hw, hwrote⟩ := write_takesAll hcall ht
    have hlen := length_covered_le h2 hfits
    have hnext : Source.arrived c₁.sent c₁.source.events =
        Frame.encode (answerBytes (covered (call.arriving.perform p.channel p.world).1)) ++ [] := by
      -- what was read before is all that was written before, so it cancels
      have h1 := harr 1
      rw [List.map_cons, List.cons_append, List.take_succ_cons, List.take_zero,
        Progress.frames_cons_none hnone, Progress.frames, hf] at h1
      rw [hwrote.sent, hwrote.source, List.append_nil]
      exact List.append_cancel_left h1
    have hsteady₁ : Source.Steady c₁.source.events := by
      rw [hwrote.source]
      exact hsteady
    obtain ⟨source, hread, hsteady', harr'⟩ := Codec.readResponse_arrived hsteady₁ hnext
      (Nat.le_trans hlen hlimit) (by rw [hwrote.maxResponse]; exact Nat.le_trans hlen hmax)
    have hx : Session.exchange call.write c =
        (.ok (answerBytes (covered (call.arriving.perform p.channel p.world).1)),
          { c₁ with source }) := by
      rw [Session.exchange, hw]
      exact hread
    obtain ⟨hanswer, hs', hworld⟩ := perform_isOn hs call w
    rw [hx] at hs' hanswer
    have hunderstood : (call.perform s w).1 =
        .ok (covered (call.arriving.perform p.channel p.world).1) := by
      rw [hanswer, report, ← understand_arriving]
      exact understand_covered hfits
    have hrest' := ih hs' hwrote.takesAll (fun q hq => hc q (List.mem_cons_of_mem _ hq))
      (by rw [hwrote.maxResponse]; exact hmax) (p := (p.frame call.payload).2)
      (by rw [hf]; exact hrest) hsteady' ?_
    · rw [performAll_cons, hworld, hrest', hunderstood, List.map_cons, performAll_cons, hf]
      rfl
    · -- the next call stands one frame further on both streams
      intro n
      have hn := harr (n + 1)
      rw [List.map_cons, List.cons_append, List.take_succ_cons, Progress.frames_cons_none hnone] at hn
      rw [← hn, hf]
      have hshift := harr' (c₁.sent + n) (Nat.le_add_right _ _)
      rw [hwrote.source, hwrote.sent] at hshift
      rw [show c.sent + (n + 1) = c.sent + 1 + n by omega, hshift, ← hwrote.sent, List.append_assoc]

end CardCall

/-! ## One connection -/

theorem open_wire {config : Config} {w : Wire} (hread : config.readTimeout ≠ some 0)
    (ht : w.sink.TakesAll) :
    ∃ link s, ({ config } : Session).open? w = (.ok link, s, w) ∧ s.closed = false ∧
      s.link = some link ∧
      Codec.Wrote (Frame.control .powerOn)
        { source := w.incoming, sink := w.sink, maxResponse := config.maxResponse } link.codec := by
  obtain ⟨c, hw, hwrote⟩ := Codec.writeCommand_takesAll
    (c := { source := w.incoming, sink := w.sink, maxResponse := config.maxResponse }) ht .powerOn
  have hconnect : ∃ bound, connect config none false w = (.ok ⟨0, w.incoming, w.sink⟩, bound, w) := by
    cases hhost : config.host with
    | none => exact ⟨some config.port, by simp [connect, hhost, accept, listen, Network.bind, Network.accept]⟩
    | some host =>
      exact ⟨none, by simp [connect, hhost, dial, dialAny, Network.resolve, Network.dial]⟩
  obtain ⟨bound, hconnect⟩ := hconnect
  refine ⟨⟨0, c⟩, { config, bound, link := some ⟨0, c⟩ }, ?_, rfl, rfl, hwrote⟩
  simp [Session.open?, Session.establish, establish, hconnect, Connection.codec, hread, hw]

theorem close_wire {s : Session} {c : Codec} (hs : s.IsOn c) (ht : c.sink.TakesAll) (w : Wire) :
    (CardChannel.close s w).2.2.written = some (c.sink.accepted ++ Frame.control .reset) := by
  obtain ⟨id, hlink⟩ := hs.link
  obtain ⟨c', hw, hwrote⟩ := Codec.writeCommand_takesAll ht .reset
  have hunbind : ∀ (port : Nat) (w : Wire), Network.unbind port w = w := fun _ _ => rfl
  simp only [CardChannel.close, Session.close, Session.shut, hs.opened, hlink, hw]
  rw [← hwrote.accepted]
  cases s.bound <;> rfl

/-- A session's calls over the network and then its close: the outcomes, and the network afterwards. -/
def readerRun (config : Config) (calls : List CardCall) (w : Wire) :
    List (Except ChannelError Answer) × Wire :=
  let (outcomes, s, w) := CardCall.performAll calls ({ config } : Session) w
  (outcomes, (CardChannel.close s w).2.2)

theorem performAll_open {W : Type} [Network W] {s s' : Session} {link : Link} {w w' : W}
    (hopen : s.open? w = (.ok link, s', w')) (hopened : s'.closed = false)
    (hlink : s'.link = some link) {calls : List CardCall} (hne : calls ≠ []) :
    CardCall.performAll calls s w = CardCall.performAll calls s' w' := by
  obtain ⟨call, rest, rfl⟩ := List.exists_cons_of_ne_nil hne
  rw [CardCall.performAll_cons, CardCall.performAll_cons,
    CardCall.perform_open hopen hopened hlink call]

/-- A reader writes the frames of its calls between a power-on and a reset, whatever it reads. -/
theorem readerRun_writes {config : Config} {calls : List CardCall} {w : Wire} (hne : calls ≠ [])
    (hc : ∀ call ∈ calls, call.Encodable) (hread : config.readTimeout ≠ some 0)
    (ht : w.sink.TakesAll) :
    (readerRun config calls w).2.written =
      some (w.sink.accepted ++ (CardCall.payloads calls).flatMap Frame.encode) := by
  obtain ⟨link, s, hopen, hopened, hlink, hwrote⟩ := open_wire hread ht
  have hon : s.IsOn link.codec := ⟨hopened, link.id, hlink⟩
  obtain ⟨c', hon', hw', ht', hacc⟩ := CardCall.performAll_writes (w := w) hon hwrote.takesAll hc
  have hclose := close_wire hon' ht' w
  simp only [readerRun, performAll_open hopen hopened hlink hne, hw', hclose, hacc, hwrote.accepted]
  simp [CardCall.payloads, Frame.control, Frame.encode, Frame.header]

namespace Peer

theorem chunk_steady (bytes : Bytes) : Source.Steady (chunk bytes) := by
  intro e he
  by_cases hb : bytes = []
  · simp [chunk, hb] at he
  · simp only [chunk, if_neg hb, List.mem_singleton] at he
    exact Or.inl ⟨bytes, hb, he⟩

theorem replyEvents_steady (frames : Nat) (replies : List Bytes) :
    Source.Steady (replyEvents frames replies) := by
  induction replies generalizing frames with
  | nil => simp [replyEvents, Source.Steady]
  | cons reply replies ih =>
    intro e he
    rcases List.mem_append.mp he with he | he
    · rcases List.mem_cons.mp he with rfl | he
      · exact Or.inr ⟨frames + 1, rfl⟩
      · exact chunk_steady reply e he
    · exact ih (frames + 1) e he

theorem arrived_chunk (n : Nat) (bytes : Bytes) (events : List ReadEvent) :
    Source.arrived n (chunk bytes ++ events) = bytes ++ Source.arrived n events := by
  by_cases hb : bytes = []
  · simp [chunk, hb]
  · simp [chunk, hb, Source.arrived, ReadEvent.bytes]

theorem arrived_replyEvents (n frames : Nat) (replies : List Bytes) :
    Source.arrived n (replyEvents frames replies) = (replies.take (n - frames)).flatten := by
  induction replies generalizing frames with
  | nil => simp [replyEvents, Source.arrived]
  | cons reply replies ih =>
    rw [replyEvents, List.cons_append, Source.arrived]
    by_cases h : frames + 1 ≤ n
    · obtain ⟨m, rfl⟩ := Nat.exists_eq_add_of_le h
      rw [if_pos h, arrived_chunk, ih, show frames + 1 + m - frames = m + 1 by omega,
        show frames + 1 + m - (frames + 1) = m by omega, List.take_succ_cons, List.flatten_cons]
    · rw [if_neg h, show n - frames = 0 by omega]
      rfl

end Peer

namespace Service

variable {κ W : Type}

/-- The service before a peer that sends those bytes and then waits. -/
def given (bytes : Bytes) (s : Service κ W) : Service κ W :=
  { s with codec := { s.codec with source := ⟨Peer.chunk bytes, .silent⟩ } }

theorem given_fed {s : Service κ W} (ht : s.codec.sink.TakesAll) (bytes : Bytes) :
    (s.given bytes).Fed bytes .silent := by
  refine ⟨⟨?_, ?_, rfl⟩, ht⟩
  · intro e he
    by_cases hb : bytes = []
    · simp [given, Peer.chunk, hb] at he
    · simp only [given, Peer.chunk, if_neg hb, List.mem_singleton] at he
      exact ⟨bytes, hb, he⟩
  · by_cases hb : bytes = []
    · simp [given, Peer.chunk, Source.undelivered, hb]
    · simp [given, Peer.chunk, Source.undelivered, hb, ReadEvent.bytes]

end Service

variable {κ W : Type} [CardChannel W κ] [CancelToken W]

/-- The streams between a reader and a service lose nothing. Down arrives, in any pieces, what the reader
writes until it has hung up. Up arrives, in any pieces, what the service writes: by the time that the
reader has written some frames, all that the service writes when it has got these and waits for more. -/
structure Joined (config : Config) (calls : List CardCall) (s : Service κ W) (w : Wire)
    (bytes : Bytes) : Prop where
  wrote : (readerRun config calls w).2.written = some bytes
  down : s.codec.source.Carries bytes .eof
  up : ∀ n, Source.arrived n w.incoming.events =
    (Service.serve (s.given (((Frame.split bytes).1.take n).flatMap Frame.encode))).2.codec.sink.accepted
  pieces : Source.Steady w.incoming.events
  readerSink : w.sink.TakesAll
  serviceSink : s.codec.sink.TakesAll
  readerFresh : w.sink.accepted = []
  serviceFresh : s.codec.sink.accepted = []

section

variable {config : Config} {calls : List CardCall} {s : Service κ W} {w : Wire} {bytes : Bytes}
  {limit : Nat}

theorem given_writes (ht : s.codec.sink.TakesAll) (hc : ∀ call ∈ calls, call.Encodable)
    (hquiet : ∀ n, CancelToken.Unset
      (s.progress.frames ((CardCall.payloads calls).take n)).2.world) (n : Nat) :
    (Service.serve (s.given
      (((CardCall.payloads calls).take n).flatMap Frame.encode))).2.codec.sink.accepted =
        (s.progress.frames ((CardCall.payloads calls).take n)).2.written := by
  have hlen : ∀ q ∈ (CardCall.payloads calls).take n, q.length ≤ Frame.maxPayload :=
    fun q hq => CardCall.length_payloads_le hc q (List.mem_of_mem_take hq)
  have hwaiting := Service.serve_frames_waiting
    (s := s.given (((CardCall.payloads calls).take n).flatMap Frame.encode))
    (Service.given_fed ht _) hlen (by
      intro m
      rw [List.take_take]
      exact hquiet _)
  exact congrArg Progress.written hwaiting

/-- Streams that carry the frames of the calls and what the fold over them sends join the two ends. -/
theorem joined_of_arrives (hne : calls ≠ []) (hc : ∀ call ∈ calls, call.Encodable)
    (hread : config.readTimeout ≠ some 0)
    (hdown : s.codec.source.Carries ((CardCall.payloads calls).flatMap Frame.encode) .eof)
    (hpieces : Source.Steady w.incoming.events)
    (hreader : w.sink.TakesAll ∧ w.sink.accepted = [])
    (hservice : s.codec.sink.TakesAll ∧ s.codec.sink.accepted = [])
    (hquiet : ∀ n, CancelToken.Unset
      (s.progress.frames ((CardCall.payloads calls).take n)).2.world)
    (harr : ∀ n, Source.arrived n w.incoming.events =
      (s.progress.frames ((CardCall.payloads calls).take n)).2.written) :
    Joined config calls s w ((CardCall.payloads calls).flatMap Frame.encode) := by
  refine ⟨?_, hdown, ?_, hpieces, hreader.1, hservice.1, hreader.2, hservice.2⟩
  · rw [readerRun_writes hne hc hread hreader.1, hreader.2, List.nil_append]
  · intro n
    rw [harr, Frame.split_encoded (CardCall.length_payloads_le hc)]
    exact (given_writes hservice.1 hc hquiet n).symm

/-- Every channel can be joined to every reader. -/
theorem exists_joined (hne : calls ≠ []) (hc : ∀ call ∈ calls, call.Encodable)
    (hread : config.readTimeout ≠ some 0) (k : κ) (v : W)
    (hquiet : ∀ n, CancelToken.Unset
      ((⟨k, v, 0, []⟩ : Progress κ W).frames ((CardCall.payloads calls).take n)).2.world) :
    ∃ (s : Service κ W) (w : Wire) (bytes : Bytes), s.channel = k ∧ s.world = v ∧
      Joined config calls s w bytes := by
  obtain ⟨replies, hreplies⟩ :=
    Progress.frames_written (CardCall.payloads calls) (⟨k, v, 0, []⟩ : Progress κ W)
  let bytes := (CardCall.payloads calls).flatMap Frame.encode
  have hbytes : bytes ≠ [] := by
    simp [bytes, CardCall.payloads, Frame.encode, Frame.header]
  refine ⟨{ channel := k, world := v, codec := { source := ⟨[.chunk bytes], .eof⟩ } },
    { incoming := ⟨Peer.replyEvents 0 replies, .silent⟩ }, bytes, rfl, rfl, ?_⟩
  have htakes : ({} : Sink).TakesAll := ⟨by simp, by simp, rfl, rfl⟩
  refine joined_of_arrives hne hc hread ⟨?_, ?_, rfl⟩ (Peer.replyEvents_steady 0 replies)
    ⟨htakes, rfl⟩ ⟨htakes, rfl⟩ hquiet ?_
  · intro e he
    exact ⟨bytes, hbytes, List.mem_singleton.mp he⟩
  · simp [Source.undelivered, ReadEvent.bytes, bytes]
  · intro n
    rw [Peer.arrived_replyEvents, Nat.sub_zero]
    exact (hreplies n).symm

theorem Joined.split (j : Joined config calls s w bytes) (hne : calls ≠ [])
    (hc : ∀ call ∈ calls, call.Encodable) (hread : config.readTimeout ≠ some 0) :
    Frame.split bytes = (CardCall.payloads calls, []) := by
  have hwrites := readerRun_writes hne hc hread j.readerSink
  rw [j.wrote, j.readerFresh] at hwrites
  rw [Option.some.inj hwrites]
  exact Frame.split_encoded (CardCall.length_payloads_le hc)

/-- By the time that some frames are written, what the fold over them sends has arrived. -/
theorem Joined.arrives (j : Joined config calls s w bytes)
    (hsplit : Frame.split bytes = (CardCall.payloads calls, []))
    (hc : ∀ call ∈ calls, call.Encodable)
    (hquiet : ∀ n, CancelToken.Unset
      (s.progress.frames ((CardCall.payloads calls).take n)).2.world) (n : Nat) :
    Source.arrived n w.incoming.events =
      (s.progress.frames ((CardCall.payloads calls).take n)).2.written := by
  rw [j.up n, hsplit]
  exact given_writes j.serviceSink hc hquiet n

theorem Joined.reads (j : Joined config calls s w bytes) (hne : calls ≠ [])
    (hc : ∀ call ∈ calls, call.Encodable) (hread : config.readTimeout ≠ some 0)
    (hlimit : limit ≤ Frame.maxPayload) (hmax : limit ≤ config.maxResponse) (h2 : 2 ≤ limit)
    (hdep : CardCall.Dependable limit (CardCall.whole calls) s.channel s.world) :
    (readerRun config calls w).1 =
      (CardCall.performAll (calls.map CardCall.arriving)
        (CardCall.atr.perform s.channel s.world).2.1
        (CardCall.atr.perform s.channel s.world).2.2).1.map fun outcome => .ok (covered outcome) := by
  have harrives := j.arrives (j.split hne hc hread) hc
    (CardCall.quiet_whole (p := s.progress) hc hlimit h2 hdep)
  obtain ⟨link, session, hopen, hopened, hlink, hwrote⟩ := open_wire hread j.readerSink
  obtain ⟨-, hfits, hrest⟩ := hdep
  have hon := CardCall.frame_power (p := s.progress) ControlCode.powerOn.toByte (Or.inl rfl) hfits
  have hsteady : Source.Steady link.codec.source.events := by
    rw [hwrote.source]
    exact j.pieces
  have hmax' : limit ≤ link.codec.maxResponse := by
    rw [hwrote.maxResponse]
    exact hmax
  have hreads := CardCall.performAll_reads (s := session) (w := w)
    (p := (s.progress.frame [ControlCode.powerOn.toByte]).2) ⟨hopened, link.id, hlink⟩
    hwrote.takesAll hc hlimit hmax' h2 (by rw [hon]; exact hrest) hsteady (by
      intro n
      have hn := harrives (n + 1)
      rw [CardCall.payloads, List.take_succ_cons, Progress.frames_cons_none (by rw [hon])] at hn
      rw [← hn, hon, hwrote.source, hwrote.sent]
      simp only [Service.progress, j.serviceFresh, List.nil_append]
      rw [Nat.zero_add, Nat.add_comm])
  rw [hon] at hreads
  simp only [readerRun, performAll_open hopen hopened hlink hne]
  exact hreads

/-- A reader makes its calls on the channel behind the service: each call once and in order, between the
ATR calls for power-on and reset, with a command of the same bytes. It gets what the channel gives, or 6F00
where an exchange fails, and the service ends well, however the streams between them are cut. -/
theorem joint_run_makes_calls (j : Joined config calls s w bytes) (hne : calls ≠ [])
    (hc : ∀ call ∈ calls, call.Encodable) (hread : config.readTimeout ≠ some 0)
    (h2 : 2 ≤ config.maxResponse)
    (hdep : CardCall.Dependable (min Frame.maxPayload config.maxResponse) (CardCall.whole calls)
      s.channel s.world) :
    ∃ powered outcomes reset,
      CardCall.performAll (CardCall.whole calls) s.channel s.world =
        (powered :: (outcomes ++ [reset]), (Service.serve s).2.channel, (Service.serve s).2.world) ∧
      (readerRun config calls w).1 = outcomes.map (fun outcome => .ok (covered outcome)) ∧
      (calls.map CardCall.arriving).map CardCall.payload = calls.map CardCall.payload ∧
      (Service.serve s).2.served = s.served + calls.countP CardCall.isTransmit ∧
      (Service.serve s).1.result = .ok () := by
  have hlimit : min Frame.maxPayload config.maxResponse ≤ Frame.maxPayload := Nat.min_le_left _ _
  have hmax : min Frame.maxPayload config.maxResponse ≤ config.maxResponse := Nat.min_le_right _ _
  have hmin : 2 ≤ min Frame.maxPayload config.maxResponse := by
    unfold Frame.maxPayload
    omega
  have hsplit := j.split hne hc hread
  obtain ⟨hnone, hchannel, hworld, hserved⟩ :=
    CardCall.frames_whole (p := s.progress) hc hlimit hmin hdep
  obtain ⟨hprog, hend⟩ := Service.serve_frames (s := s) ⟨j.down, j.serviceSink⟩ (by
    rw [hsplit]
    exact CardCall.quiet_whole (p := s.progress) hc hlimit hmin hdep)
  rw [hsplit] at hprog hend
  rw [hnone] at hend
  rw [← hprog] at hchannel hworld hserved
  obtain ⟨reset, hwhole⟩ := CardCall.performAll_whole calls s.channel s.world
  refine ⟨(CardCall.atr.perform s.channel s.world).1, _, reset, ?_, j.reads hne hc hread hlimit hmax hmin hdep, ?_, hserved, ?_⟩
  · exact Prod.ext hwhole (Prod.ext hchannel.symm hworld.symm)
  · rw [List.map_map]
    exact List.map_congr_left fun call hmem => CardCall.payload_arriving (hc call hmem)
  · rw [hend]
    rfl

end

/-! A card that fails on the second exchange, behind streams that are cut inside headers and payloads. -/

def sampleCalls : List CardCall :=
  [.transmit ⟨0x00, 0xB0, 0x00, 0x00, none, some 256⟩, .atr,
    .transmit ⟨0x00, 0xA4, 0x00, 0x00, some [], none⟩]

def sampleService : Service Scripted.Card Scripted.World where
  channel := { replies := [.raw [0xAA, 0x90, 0x00], .failure .notConnected] }
  codec := { source := {
    events := [.chunk [0], .chunk [1, 1, 0, 5, 0, 0xB0, 0], .chunk [0, 0, 0, 1, 4, 0, 5, 0, 0xA4],
      .chunk [0, 0, 0, 0, 1], .chunk [2]]
    atEnd := .eof } }
  world := {}

def sampleWire : Wire where
  incoming := {
    events := [.await 2, .chunk [0], .chunk [3, 0xAA, 0x90, 0], .await 3, .chunk [0, 2, 0x3B, 0],
      .await 4, .chunk [0, 2, 0x6F], .chunk [0]]
    atEnd := .silent }

theorem sample_encodable : ∀ call ∈ sampleCalls, call.Encodable := by
  intro call hmem
  simp only [sampleCalls, List.mem_cons, List.not_mem_nil, or_false] at hmem
  rcases hmem with rfl | rfl | rfl
  · exact ⟨rfl, by simp⟩
  · trivial
  · exact ⟨rfl, by simp⟩

theorem sample_joined :
    Joined {} sampleCalls sampleService sampleWire
      [0, 1, 1, 0, 5, 0, 0xB0, 0, 0, 0, 0, 1, 4, 0, 5, 0, 0xA4, 0, 0, 0, 0, 1, 2] := by
  have hfive : ∀ n, (CardCall.payloads sampleCalls).take (n + 5) = CardCall.payloads sampleCalls :=
    fun n => List.take_of_length_le (Nat.le_add_left 5 n)
  refine joined_of_arrives (by simp [sampleCalls]) sample_encodable (by simp) ⟨?_, rfl, rfl⟩ ?_
    ⟨⟨by simp [sampleWire], by simp [sampleWire], rfl, rfl⟩, rfl⟩
    ⟨⟨by simp [sampleService], by simp [sampleService], rfl, rfl⟩, rfl⟩ ?_ ?_
  · simp [sampleService]
  · simp [Source.Steady, sampleWire]
  · intro n
    match n with
    | 0 => rfl
    | 1 => rfl
    | 2 => rfl
    | 3 => rfl
    | 4 => rfl
    | n + 5 =>
      rw [hfive n]
      rfl
  · intro n
    match n with
    | 0 => rfl
    | 1 => rfl
    | 2 => rfl
    | 3 => rfl
    | 4 => rfl
    | n + 5 =>
      rw [hfive n]
      simp only [sampleWire, Source.arrived, show 2 ≤ n + 5 by omega, show 3 ≤ n + 5 by omega,
        show 4 ≤ n + 5 by omega, if_true]
      rfl

theorem joint_run_makes_calls_sample :
    (readerRun {} sampleCalls sampleWire).1 =
      [.ok (.response ⟨[0xAA], ⟨0x90, 0x00⟩⟩), .ok (.atr ⟨[0x3B, 0x00]⟩),
        .ok (.response ⟨[], ⟨0x6F, 0x00⟩⟩)] ∧
    (Service.serve sampleService).2.served = 2 ∧
    (Service.serve sampleService).1.result = .ok () := by
  have hdep : CardCall.Dependable (min Frame.maxPayload ({} : Config).maxResponse)
      (CardCall.whole sampleCalls) sampleService.channel sampleService.world := by
    refine ⟨rfl, ⟨_, rfl, by decide⟩, rfl, ?_, rfl, ⟨_, rfl, by decide⟩, rfl, ?_, rfl,
      ⟨_, rfl, by decide⟩, rfl⟩
    · intro answer h
      cases h
      decide
    · intro answer h
      cases h
  obtain ⟨powered, outcomes, reset, hrun, hreads, -, hserved, hend⟩ :=
    joint_run_makes_calls sample_joined (by simp [sampleCalls]) sample_encodable (by simp) (by decide) hdep
  have hdirect : (CardCall.performAll (CardCall.whole sampleCalls) sampleService.channel
      sampleService.world).1 =
      .ok (.atr ⟨[0x3B, 0x00]⟩) :: ([.ok (.response ⟨[0xAA], ⟨0x90, 0x00⟩⟩),
        .ok (.atr ⟨[0x3B, 0x00]⟩), .error .notConnected] ++ [.ok (.atr ⟨[0x3B, 0x00]⟩)]) := rfl
  rw [hrun] at hdirect
  obtain ⟨rfl, -⟩ := List.append_inj' (List.cons.inj hdirect).2 rfl
  exact ⟨hreads, hserved, hend⟩

end CardLink.VirtualCard
