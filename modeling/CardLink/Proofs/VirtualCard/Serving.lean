import CardLink.Proofs.Wire.Frames
import CardLink.Scripted.Card

/-!
# Serving as a fold over frames

A service reads its frames from a stream piece by piece. What it does is nevertheless a fold over the
payloads of the frames that the stream holds: each frame makes its calls on the channel and sends at most
one frame back, the first failure ends the fold, and what is left after the last frame decides how the
service ends. The fold knows neither codec nor stream.
-/

namespace CardLink.VirtualCard

/-- The token is not set, and looking at it changes nothing. -/
def CancelToken.Unset {W : Type} [CancelToken W] (w : W) : Prop := CancelToken.poll w = (false, w)

/-- A service between two frames, as the reader and the channel see it. -/
structure Progress (κ W : Type) where
  channel : κ
  world : W
  served : Nat
  /-- All bytes sent to the reader. -/
  written : Bytes

namespace Progress

variable {κ W : Type}

/-- Sends one data frame, unless no header can tell its length. -/
def send (payload : Bytes) (p : Progress κ W) : Option ChannelError × Progress κ W :=
  if payload.length ≤ 65535 then (none, { p with written := p.written ++ Frame.encode payload })
  else (some (.transport (.frameTooLarge payload.length 65535)), p)

variable [CardChannel W κ]

def power (p : Progress κ W) : Except ChannelError Atr × Progress κ W :=
  let (result, channel, world) := CardChannel.atr p.channel p.world
  (result, { p with channel, world })

/-- Codes 1 and 2 power the card, code 4 also sends its ATR, all others do nothing. -/
def control (code : UInt8) (p : Progress κ W) : Option ChannelError × Progress κ W :=
  if code = 1 ∨ code = 2 then
    match p.power with
    | (.error e, p) => (some e, p)
    | (.ok _, p) => (none, p)
  else if code = 4 then
    match p.power with
    | (.error e, p) => (some e, p)
    | (.ok atr, p) => p.send atr.bytes
  else (none, p)

/-- The channel's response to an APDU; 6F00 if it is none or the channel fails. -/
def exchange (apdu : Bytes) (p : Progress κ W) : Response × Progress κ W :=
  match Command.parse apdu with
  | .error _ => (⟨[], ⟨0x6F, 0x00⟩⟩, p)
  | .ok command =>
    match CardChannel.transmit command p.channel p.world with
    | (.ok response, channel, world) => (response, { p with channel, world })
    | (.error _, channel, world) => (⟨[], ⟨0x6F, 0x00⟩⟩, { p with channel, world })

def data (apdu : Bytes) (p : Progress κ W) : Option ChannelError × Progress κ W :=
  match (p.exchange apdu).2.send (p.exchange apdu).1.encode with
  | (some e, p) => (some e, p)
  | (none, p) => (none, { p with served := p.served + 1 })

/-- What one frame does, and the failure that it ends the service with. -/
def frame (payload : Bytes) (p : Progress κ W) : Option ChannelError × Progress κ W :=
  match payload with
  | [code] => p.control code
  | apdu => p.data apdu

/-- What the frames do in order, up to the first failure. -/
def frames : List Bytes → Progress κ W → Option ChannelError × Progress κ W
  | [], p => (none, p)
  | payload :: payloads, p =>
    match p.frame payload with
    | (some e, p) => (some e, p)
    | (none, p) => p.frames payloads

/-- What a stream that ends after these bytes of a frame fails with; between two frames it does not. -/
def cutShort : Bytes → Option ChannelError
  | [] => none
  | [_] => some (.transport (.connectionClosed 2 1))
  | hi :: lo :: rest =>
    some (.transport (.connectionClosed (Frame.headerLength [hi, lo]) rest.length))

theorem cutShort_eq_none (left : Bytes) : cutShort left = none ↔ left = [] := by
  match left with
  | [] => simp [cutShort]
  | [_] => simp [cutShort]
  | _ :: _ :: _ => simp [cutShort]

theorem frame_data {apdu : Bytes} (h : apdu.length ≠ 1) (p : Progress κ W) :
    p.frame apdu = p.data apdu := by
  match apdu, h with
  | [], _ => rfl
  | _ :: _ :: _, _ => rfl

theorem frames_cons_none {payload : Bytes} {p : Progress κ W} (h : (p.frame payload).1 = none)
    (payloads : List Bytes) : p.frames (payload :: payloads) = (p.frame payload).2.frames payloads := by
  rcases hf : p.frame payload with ⟨failure, p'⟩
  rw [hf] at h
  cases h
  simp [frames, hf]

theorem frames_cons_some {payload : Bytes} {p : Progress κ W} {e : ChannelError}
    (h : (p.frame payload).1 = some e) (payloads : List Bytes) :
    p.frames (payload :: payloads) = p.frame payload := by
  rcases hf : p.frame payload with ⟨failure, p'⟩
  rw [hf] at h
  cases h
  simp [frames, hf]

theorem frames_append_none {before : List Bytes} {p : Progress κ W} (h : (p.frames before).1 = none)
    (payloads : List Bytes) : p.frames (before ++ payloads) = (p.frames before).2.frames payloads := by
  induction before generalizing p with
  | nil => rfl
  | cons payload before ih =>
    cases hf : (p.frame payload).1 with
    | some e =>
      rw [frames_cons_some hf, hf] at h
      cases h
    | none =>
      rw [frames_cons_none hf] at h
      rw [List.cons_append, frames_cons_none hf, frames_cons_none hf, ih h]

omit [CardChannel W κ] in
theorem send_written (payload : Bytes) (p : Progress κ W) :
    ∃ sent, (p.send payload).2.written = p.written ++ sent := by
  unfold send
  split
  · exact ⟨_, rfl⟩
  · exact ⟨[], by simp⟩

theorem power_written (p : Progress κ W) : p.power.2.written = p.written := rfl

theorem exchange_written (apdu : Bytes) (p : Progress κ W) :
    (p.exchange apdu).2.written = p.written := by
  unfold exchange
  split
  · rfl
  · split <;> rfl

theorem exchange_served (apdu : Bytes) (p : Progress κ W) :
    (p.exchange apdu).2.served = p.served := by
  unfold exchange
  split
  · rfl
  · split <;> rfl

/-- Nothing that was sent is taken back. -/
theorem frame_written (payload : Bytes) (p : Progress κ W) :
    ∃ sent, (p.frame payload).2.written = p.written ++ sent := by
  have hdata : ∀ apdu, ∃ sent, (p.data apdu).2.written = p.written ++ sent := by
    intro apdu
    obtain ⟨sent, h⟩ := send_written (p.exchange apdu).1.encode (p.exchange apdu).2
    rw [exchange_written] at h
    refine ⟨sent, ?_⟩
    unfold data
    split
    · next heq => rwa [heq] at h
    · next heq => rwa [heq] at h
  match payload with
  | [code] =>
    have hp := power_written p
    simp only [frame, control]
    split
    · split
      · next heq =>
        rw [heq] at hp
        exact ⟨[], by simpa using hp⟩
      · next heq =>
        rw [heq] at hp
        exact ⟨[], by simpa using hp⟩
    · split
      · split
        · next heq =>
          rw [heq] at hp
          exact ⟨[], by simpa using hp⟩
        · next atr p' heq =>
          rw [heq] at hp
          obtain ⟨sent, h⟩ := send_written atr.bytes p'
          exact ⟨sent, by rw [h, hp]⟩
      · exact ⟨[], by simp⟩
  | [] => exact hdata []
  | hi :: lo :: rest => exact hdata (hi :: lo :: rest)

/-- Each frame is answered by some bytes, possibly none, and they are sent in order. -/
theorem frames_written (payloads : List Bytes) (p : Progress κ W) :
    ∃ replies : List Bytes, ∀ n,
      (p.frames (payloads.take n)).2.written = p.written ++ (replies.take n).flatten := by
  induction payloads generalizing p with
  | nil => exact ⟨[], by simp [frames]⟩
  | cons payload payloads ih =>
    obtain ⟨sent, hsent⟩ := frame_written payload p
    cases hf : (p.frame payload).1 with
    | some e =>
      refine ⟨[sent], ?_⟩
      intro n
      cases n with
      | zero => simp [frames]
      | succ n =>
        rw [List.take_succ_cons, frames_cons_some hf, hsent]
        simp
    | none =>
      obtain ⟨replies, h⟩ := ih (p.frame payload).2
      refine ⟨sent :: replies, ?_⟩
      intro n
      cases n with
      | zero => simp [frames]
      | succ n =>
        rw [List.take_succ_cons, frames_cons_none hf, h n, hsent]
        simp

end Progress

namespace Service

variable {κ W : Type} [CardChannel W κ]

def progress (s : Service κ W) : Progress κ W :=
  ⟨s.channel, s.world, s.served, s.codec.sink.accepted⟩

/-- The reader's stream carries those bytes to the service, ends like that, and takes all that it writes. -/
structure Fed (bytes : Bytes) (atEnd : SourceEnd) (s : Service κ W) : Prop where
  carries : s.codec.source.Carries bytes atEnd
  takesAll : s.codec.sink.TakesAll

/-- A round does what its frame does, and then the rest of the stream is left. -/
structure Follows (r : Round κ W) (after : Option ChannelError × Progress κ W) (rest : Bytes)
    (atEnd : SourceEnd) : Prop where
  progress : r.service.progress = after.2
  stops : ∀ e, after.1 = some e → r = .stop (.failed e) r.service
  goesOn : after.1 = none → r = .next r.service ∧ r.service.Fed rest atEnd

omit [CardChannel W κ] in
theorem Follows.stop {s : Service κ W} {e : ChannelError} {p : Progress κ W} {rest : Bytes}
    {atEnd : SourceEnd} (h : s.progress = p) :
    Follows (.stop (.failed e) s) (some e, p) rest atEnd := by
  refine ⟨h, ?_, ?_⟩
  · intro e' he
    cases he
    rfl
  · intro hn
    simp at hn

omit [CardChannel W κ] in
theorem Follows.next {s : Service κ W} {p : Progress κ W} {rest : Bytes} {atEnd : SourceEnd}
    (h : s.progress = p) (hf : s.Fed rest atEnd) : Follows (.next s) (none, p) rest atEnd := by
  refine ⟨h, ?_, fun _ => ⟨rfl, hf⟩⟩
  intro e he
  simp at he

omit [CardChannel W κ] in
/-- A reply is sent, or it ends the service because no header can tell its length. -/
theorem reply_follows {s : Service κ W} {rest : Bytes} {atEnd : SourceEnd} (hs : s.Fed rest atEnd)
    (payload : Bytes) (count : Nat → Nat) :
    Follows
      (match s.codec.writeData payload with
        | (.error e, codec) => .stop (.failed (.transport e)) { s with codec }
        | (.ok (), codec) => .next { s with codec, served := count s.served })
      (match s.progress.send payload with
        | (some e, p) => (some e, p)
        | (none, p) => (none, { p with served := count p.served })) rest atEnd := by
  by_cases hp : payload.length ≤ 65535
  · obtain ⟨codec, hw, hc⟩ := Codec.writeData_takesAll hs.takesAll
      (show payload.length ≤ Frame.maxPayload from hp)
    have hsend : s.progress.send payload = (none, { s with codec }.progress) := by
      simp [Progress.send, hp, progress, hc.accepted]
    have hcarries : codec.source.Carries rest atEnd := by
      rw [hc.source]
      exact hs.carries
    rw [hw, hsend]
    exact Follows.next rfl ⟨hcarries, hc.takesAll⟩
  · have hw : s.codec.writeData payload = (.error (.frameTooLarge payload.length 65535), s.codec) := by
      rw [Codec.writeData, Frame.maxPayload, if_pos (by omega)]
    have hsend : s.progress.send payload =
        (some (.transport (.frameTooLarge payload.length 65535)), s.progress) := by
      simp [Progress.send, hp]
    rw [hw, hsend]
    exact Follows.stop rfl

theorem serveControl_follows {s : Service κ W} {rest : Bytes} {atEnd : SourceEnd}
    (hs : s.Fed rest atEnd) (code : UInt8) :
    Follows (serveControl (.ofByte code) s) (s.progress.control code) rest atEnd := by
  have powered : Follows (serveControl .powerOn s) (s.progress.control 1) rest atEnd := by
    rcases hatr : CardChannel.atr s.channel s.world with ⟨result, channel, world⟩
    cases result with
    | error e =>
      simpa [serveControl, Progress.control, Progress.power, progress, hatr] using Follows.stop rfl
    | ok atr =>
      simpa [serveControl, Progress.control, Progress.power, progress, hatr] using
        Follows.next (s := { s with channel, world }) rfl ⟨hs.carries, hs.takesAll⟩
  -- the fold tells the codes apart by number, the service by the code they stand for
  by_cases h1 : code = 1
  · subst h1
    exact powered
  by_cases h2 : code = 2
  · subst h2
    exact powered
  by_cases h4 : code = 4
  · subst h4
    rcases hatr : CardChannel.atr s.channel s.world with ⟨result, channel, world⟩
    cases result with
    | error e =>
      simpa [serveControl, ControlCode.ofByte, Progress.control, Progress.power, progress, hatr]
        using Follows.stop rfl
    | ok atr =>
      have hs' : Fed rest atEnd { s with channel, world } := ⟨hs.carries, hs.takesAll⟩
      have hreply := reply_follows hs' atr.bytes id
      have hround : serveControl (.ofByte 4) s =
          match s.codec.writeData atr.bytes with
          | (.error e, codec) => .stop (.failed (.transport e)) { s with channel, codec, world }
          | (.ok (), codec) => .next { s with channel, codec, world } := by
        simp only [serveControl, ControlCode.ofByte, hatr]
        rfl
      have hcontrol : s.progress.control 4 =
          match { s with channel, world }.progress.send atr.bytes with
          | (some e, p) => (some e, p)
          | (none, p) => (none, { p with served := id p.served }) := by
        have hsend : s.progress.control 4 = { s with channel, world }.progress.send atr.bytes := by
          simp [Progress.control, Progress.power, progress, hatr]
        rw [hsend]
        unfold Progress.send
        split <;> rfl
      rw [hround, hcontrol]
      exact hreply
  · have hp : s.progress.control code = (none, s.progress) := by
      simp [Progress.control, h1, h2, h4]
    rw [hp]
    by_cases h0 : code = 0
    · subst h0
      exact Follows.next rfl hs
    · have hc : ControlCode.ofByte code = .other code := by
        simp [ControlCode.ofByte, h0, h1, h2, h4]
      rw [hc]
      exact Follows.next rfl hs

theorem answer_exchange (s : Service κ W) (apdu : Bytes) :
    s.progress.exchange apdu =
      ((answer apdu s.channel s.world).1,
        { s with channel := (answer apdu s.channel s.world).2.1,
                 world := (answer apdu s.channel s.world).2.2 }.progress) := by
  unfold Progress.exchange answer
  cases Command.parse apdu with
  | error e => rfl
  | ok command =>
    rcases htr : CardChannel.transmit command s.channel s.world with ⟨result, channel, world⟩
    cases result <;> simp [progress, htr, Response.statusOnly, StatusWord.noPreciseDiagnosis]

theorem serveData_follows {s : Service κ W} {apdu rest : Bytes} {atEnd : SourceEnd}
    (hc : s.codec.source.Carries (apdu ++ rest) atEnd) (ht : s.codec.sink.TakesAll)
    (hp : s.codec.pending = some apdu.length) :
    Follows (serveData s) (s.progress.data apdu) rest atEnd := by
  obtain ⟨source, hr, hrest⟩ := Codec.readData_carries hc hp
  have hx := answer_exchange s apdu
  rcases ha : answer apdu s.channel s.world with ⟨response, channel, world⟩
  rw [ha] at hx
  let s₁ : Service κ W :=
    { s with channel, world, codec := { s.codec with source, pending := none } }
  have hreply := reply_follows (s := s₁) ⟨hrest, ht⟩ response.encode (· + 1)
  have hround : serveData s =
      match s₁.codec.writeData response.encode with
      | (.error e, codec) => .stop (.failed (.transport e)) { s₁ with codec }
      | (.ok (), codec) => .next { s₁ with codec, served := s₁.served + 1 } := by
    simp only [serveData, hr, ha]
    rfl
  have hdata : s.progress.data apdu =
      match s₁.progress.send response.encode with
      | (some e, p) => (some e, p)
      | (none, p) => (none, { p with served := p.served + 1 }) := by
    rw [Progress.data, hx]
    rfl
  rw [hround, hdata]
  exact hreply

theorem serveFrame_follows {s : Service κ W} {payload rest : Bytes} {atEnd : SourceEnd}
    (hs : s.Fed (Frame.encode payload ++ rest) atEnd) (hp : payload.length ≤ Frame.maxPayload) :
    Follows (serveFrame s) (s.progress.frame payload) rest atEnd := by
  by_cases h1 : payload.length = 1
  · obtain ⟨code, rfl⟩ := List.length_eq_one_iff.mp h1
    obtain ⟨source, hr, hc⟩ := Codec.readCommand_control hs.carries
    rw [serveFrame, hr]
    exact serveControl_follows (s := { s with codec := { s.codec with source } })
      ⟨hc, hs.takesAll⟩ code
  · obtain ⟨source, hr, hc⟩ := Codec.readCommand_data hs.carries hp h1
    rw [Progress.frame_data h1, serveFrame, hr]
    exact serveData_follows
      (s := { s with codec := { s.codec with source, pending := some payload.length } })
      hc hs.takesAll rfl

omit [CardChannel W κ] in
theorem Fed.not_starved {s : Service κ W} {bytes : Bytes} {atEnd : SourceEnd} (hs : s.Fed bytes atEnd)
    (h : atEnd = .eof ∨ bytes ≠ []) : s.codec.isStarved = false := by
  have he := hs.carries.ends
  have hw := hs.carries.whole
  have hp := hs.carries.pieces
  unfold Codec.isStarved Source.isStarved
  split
  · next heq =>
    rcases h with rfl | hne
    · rw [he]
      rfl
    · rw [Source.undelivered, heq] at hw
      exact absurd hw.symm hne
  · next frames _ heq =>
    obtain ⟨piece, _, h⟩ := hp (.await frames) (by simp [heq])
    cases h
  · rfl

omit [CardChannel W κ] in
theorem Fed.starved {s : Service κ W} (hs : s.Fed [] .silent) : s.codec.isStarved = true := by
  have hevents : s.codec.source.events = [] := by
    cases hev : s.codec.source.events with
    | nil => rfl
    | cons e rest =>
      obtain ⟨piece, hne, rfl⟩ := hs.carries.pieces e (by simp [hev])
      have hw := hs.carries.whole
      simp [Source.undelivered, hev, ReadEvent.bytes, hne] at hw
  unfold Codec.isStarved Source.isStarved
  rw [hevents, hs.carries.ends]
  rfl

theorem serveFrame_cutShort {s : Service κ W} {bytes : Bytes} (hs : s.Fed bytes .eof)
    (hb : Frame.Beginning bytes) :
    ∃ s', s'.progress = s.progress ∧
      serveFrame s = .stop (match Progress.cutShort bytes with | none => .hungUp | some e => .failed e) s' := by
  cases hb with
  | nothing =>
    obtain ⟨source, hr⟩ := Codec.readCommand_header_short hs.carries (by decide)
    refine ⟨{ s with codec := { s.codec with source } }, rfl, ?_⟩
    simp [serveFrame, hr, Progress.cutShort]
  | halfHeader b =>
    obtain ⟨source, hr⟩ := Codec.readCommand_header_short hs.carries Nat.one_lt_two
    refine ⟨{ s with codec := { s.codec with source } }, rfl, ?_⟩
    simp [serveFrame, hr, Progress.cutShort, Frame.headerSize]
  | part hi lo rest hlt =>
    by_cases h1 : Frame.headerLength [hi, lo] = 1
    · obtain rfl : rest = [] := List.length_eq_zero_iff.mp (by omega)
      obtain ⟨source, hr⟩ := Codec.readCommand_code_missing hs.carries h1
      refine ⟨{ s with codec := { s.codec with source } }, rfl, ?_⟩
      simp [serveFrame, hr, Progress.cutShort, Frame.headerSize, h1]
    · obtain ⟨source, hr, hc⟩ := Codec.readCommand_announced hs.carries h1
      obtain ⟨source', hr'⟩ := Codec.readData_short (c := { s.codec with
        source, pending := some (Frame.headerLength [hi, lo]) }) hc rfl hlt
      refine ⟨{ s with codec := { s.codec with
        source := source', pending := some (Frame.headerLength [hi, lo]) } }, rfl, ?_⟩
      simp [serveFrame, hr, serveData, hr', Progress.cutShort]

variable [CancelToken W]

theorem round_unset {s : Service κ W} {bytes : Bytes} {atEnd : SourceEnd} (hs : s.Fed bytes atEnd)
    (h : atEnd = .eof ∨ bytes ≠ []) (hu : CancelToken.Unset s.world) : round s = serveFrame s := by
  unfold CancelToken.Unset at hu
  simp [round, hu, hs.not_starved h]

theorem serve_of_stop {s s' : Service κ W} {ended : ServiceEnd} (h : round s = .stop ended s') :
    serve s = (ended, s') := by
  rw [serve]
  split
  · next heq =>
    rw [h] at heq
    cases heq
    rfl
  · next heq =>
    rw [h] at heq
    cases heq

theorem serve_of_next {s s' : Service κ W} (h : round s = .next s') : serve s = serve s' := by
  rw [serve]
  split
  · next heq =>
    rw [h] at heq
    cases heq
  · next heq =>
    rw [h] at heq
    cases heq
    rfl

def endOf : Option ChannelError → ServiceEnd
  | none => .hungUp
  | some e => .failed e

/-- One frame more is one step of the fold more, by induction on the length of the stream. -/
theorem serve_frames {s : Service κ W} {bytes : Bytes} (hs : s.Fed bytes .eof)
    (hu : ∀ n, CancelToken.Unset (s.progress.frames ((Frame.split bytes).1.take n)).2.world) :
    (serve s).2.progress = (s.progress.frames (Frame.split bytes).1).2 ∧
    (serve s).1 = endOf ((s.progress.frames (Frame.split bytes).1).1.or
      (Progress.cutShort (Frame.split bytes).2)) := by
  induction hlen : bytes.length using Nat.strongRecOn generalizing bytes s with
  | ind length ih =>
    have hround := round_unset hs (Or.inl rfl) (hu 0)
    rcases Frame.first_frame bytes with hb | ⟨payload, rest, hp, rfl⟩
    · obtain ⟨s', hprog, hstop⟩ := serveFrame_cutShort hs hb
      rw [serve_of_stop (hround.trans hstop), Frame.split_beginning hb]
      exact ⟨hprog, rfl⟩
    · have hf := serveFrame_follows hs hp
      rw [← hround] at hf
      rw [Frame.split_encode hp] at hu ⊢
      cases hfail : (s.progress.frame payload).1 with
      | some e =>
        rw [serve_of_stop (hf.stops e hfail), Progress.frames_cons_some hfail, hfail]
        exact ⟨hf.progress, rfl⟩
      | none =>
        obtain ⟨hnext, hfed⟩ := hf.goesOn hfail
        rw [serve_of_next hnext, Progress.frames_cons_none hfail, ← hf.progress]
        refine ih rest.length ?_ hfed ?_ rfl
        · rw [← hlen, Frame.encode_append]
          simp only [List.length_append, Frame.length_header, Frame.headerSize]
          omega
        · intro n
          have := hu (n + 1)
          rwa [List.take_succ_cons, Progress.frames_cons_none hfail, ← hf.progress] at this

/-- A service that waits for more has done what the frames that arrived do, unless one of them ended it. -/
theorem serve_frames_waiting {s : Service κ W} {payloads : List Bytes}
    (hs : s.Fed (payloads.flatMap Frame.encode) .silent)
    (hp : ∀ payload ∈ payloads, payload.length ≤ Frame.maxPayload)
    (hu : ∀ n, CancelToken.Unset (s.progress.frames (payloads.take n)).2.world) :
    (serve s).2.progress = (s.progress.frames payloads).2 := by
  induction payloads generalizing s with
  | nil =>
    have hpoll : CancelToken.poll s.world = (false, s.world) := hu 0
    have hround : round s = .stop .waiting s := by
      simp [round, hpoll, hs.starved]
    rw [serve_of_stop hround]
    rfl
  | cons payload payloads ih =>
    have hnonempty : (payload :: payloads).flatMap Frame.encode ≠ [] := by
      simp [Frame.encode, Frame.header]
    have hround := round_unset hs (Or.inr hnonempty) (hu 0)
    rw [List.flatMap_cons] at hs
    have hf := serveFrame_follows hs (hp payload List.mem_cons_self)
    rw [← hround] at hf
    cases hfail : (s.progress.frame payload).1 with
    | some e =>
      rw [serve_of_stop (hf.stops e hfail), Progress.frames_cons_some hfail]
      exact hf.progress
    | none =>
      obtain ⟨hnext, hfed⟩ := hf.goesOn hfail
      rw [serve_of_next hnext, Progress.frames_cons_none hfail, ← hf.progress]
      refine ih hfed (fun q hq => hp q (List.mem_cons_of_mem _ hq)) ?_
      intro n
      have := hu (n + 1)
      rwa [List.take_succ_cons, Progress.frames_cons_none hfail, ← hf.progress] at this

theorem endOf_result (failure : Option ChannelError) :
    (endOf failure).result = .ok () ↔ failure = none := by
  cases failure with
  | none => simp [endOf, ServiceEnd.result]
  | some e => simp [endOf, ServiceEnd.result]

/-- Whatever the stream holds and wherever it is cut, serving it is the fold over its frames. It ends well
exactly if no frame failed and nothing was left; an end inside a frame tells how much of the part that was
being read had arrived. -/
theorem serve_is_fold_over_frames {s : Service κ W} {bytes : Bytes} (hs : s.Fed bytes .eof)
    (hu : ∀ n, CancelToken.Unset (s.progress.frames ((Frame.split bytes).1.take n)).2.world) :
    (serve s).2.progress = (s.progress.frames (Frame.split bytes).1).2 ∧
    (serve s).1 = endOf ((s.progress.frames (Frame.split bytes).1).1.or
      (Progress.cutShort (Frame.split bytes).2)) ∧
    ((serve s).1.result = .ok () ↔
      (s.progress.frames (Frame.split bytes).1).1 = none ∧ (Frame.split bytes).2 = []) := by
  obtain ⟨hprog, hend⟩ := serve_frames hs hu
  refine ⟨hprog, hend, ?_⟩
  rw [hend, endOf_result, Option.or_eq_none_iff, Progress.cutShort_eq_none]

/-- A reader that asks for the ATR, sends an empty APDU and goes away inside the header after it. -/
def abandoned : Service Scripted.Card Scripted.World where
  channel := {}
  codec := { source := { events := [.chunk [0, 1, 4, 0], .chunk [0, 0]], atEnd := .eof } }
  world := {}

theorem serve_is_fold_over_frames_abandoned :
    abandoned.Fed [0, 1, 4, 0, 0, 0] .eof ∧
    (serve abandoned).1 = .failed (.transport (.connectionClosed 2 1)) ∧
    (serve abandoned).2.served = 1 ∧
    (serve abandoned).2.world.events = #[.atr] ∧
    (serve abandoned).2.codec.sink.accepted = [0, 2, 0x3B, 0x00, 0, 2, 0x6F, 0x00] := by
  have hfed : abandoned.Fed [0, 1, 4, 0, 0, 0] .eof := by
    refine ⟨⟨?_, rfl, rfl⟩, ⟨?_, ?_, rfl, rfl⟩⟩
    · simp [abandoned]
    · simp [abandoned]
    · simp [abandoned]
  have hsplit : Frame.split [0, 1, 4, 0, 0, 0] = ([[4], []], [0]) := by
    simp [Frame.split, Frame.headerLength]
  have hquiet : ∀ n, CancelToken.Unset
      (abandoned.progress.frames ((Frame.split [0, 1, 4, 0, 0, 0]).1.take n)).2.world := by
    intro n
    rw [hsplit]
    rcases n with _ | _ | n
    · rfl
    · rfl
    · rw [List.take_of_length_le (Nat.le_add_left 2 n)]
      rfl
  obtain ⟨hprog, hend, -⟩ := serve_is_fold_over_frames hfed hquiet
  rw [hsplit] at hprog hend
  refine ⟨hfed, hend, ?_, ?_, ?_⟩
  · exact congrArg Progress.served hprog
  · exact congrArg (fun p => p.world.events) hprog
  · exact congrArg Progress.written hprog

end Service
end CardLink.VirtualCard
