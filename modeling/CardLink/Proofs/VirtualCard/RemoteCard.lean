import CardLink.Proofs.VirtualCard.Lag

/-!
# Serving a card that is far away

A service may stand before a session to another card. It covers every failure of an exchange by 6F00 and
uses the session for the next APDU all the same, also after a failure that ends a session's use. So an
answer that comes after the deadline is sent for a later APDU, and all answers lag from then on. Until the
first failure on the session every APDU gets its own answer or 6F00.
-/

namespace CardLink.VirtualCard

namespace Progress

variable {κ W : Type} [CardChannel W κ]

def replies : List Bytes → Progress κ W → List Response
  | [], _ => []
  | apdu :: apdus, p => (p.exchange apdu).1 :: replies apdus (p.frame apdu).2

/-- The connection of the session behind the channel. -/
def link (session? : κ → Option Session) (p : Progress κ W) : Option Link :=
  (session? p.channel).bind (·.link)

/-- How far the answers lag after an APDU. One that is no command is not handed on. -/
def lagAfter (session? : κ → Option Session) (apdu : Bytes) (p : Progress κ W) (lag : Option Nat) :
    Option Nat :=
  match Command.parse apdu with
  | .error _ => lag
  | .ok command =>
    VirtualCard.lagAfter (failureOf ((CardCall.transmit command).perform p.channel p.world).1)
      ((p.exchange apdu).2.link session?) lag

def lagAlong (session? : κ → Option Session) : List Bytes → Progress κ W → Option Nat → Option Nat
  | [], _, lag => lag
  | apdu :: apdus, p, lag =>
    lagAlong session? apdus (p.frame apdu).2 (p.lagAfter session? apdu lag)

def Behind (peers : Nat → Nat → Bytes) (session? : κ → Option Session) (lag : Option Nat)
    (p : Progress κ W) : Prop :=
  ∃ s, session? p.channel = some s ∧ s.Behind peers lag

/-- The response to an APDU is 6F00 or what the far card answered so many requests before the last one. -/
def ReplyLags (peers : Nat → Nat → Bytes) (session? : κ → Option Session) (lag : Nat) (apdu : Bytes)
    (p : Progress κ W) : Prop :=
  (p.exchange apdu).1 = .statusOnly .noPreciseDiagnosis ∨
    ∃ link, (p.exchange apdu).2.link session? = some link ∧ lag < link.asked ∧
      (p.exchange apdu).1.encode = peers link.id (link.asked - 1 - lag)

theorem replies_getElem? {before : List Bytes} {p : Progress κ W} (h : (p.frames before).1 = none)
    (apdu : Bytes) (after : List Bytes) :
    (p.replies (before ++ apdu :: after))[before.length]? =
      some ((p.frames before).2.exchange apdu).1 := by
  induction before generalizing p with
  | nil => rfl
  | cons first before ih =>
    cases hf : (p.frame first).1 with
    | some e =>
      rw [frames_cons_some hf, hf] at h
      cases h
    | none =>
      rw [frames_cons_none hf] at h ⊢
      rw [List.cons_append, replies, List.length_cons, List.getElem?_cons_succ]
      exact ih h

/-- A response that lags is the own one only by chance. -/
theorem ReplyLags.own {peers : Nat → Nat → Bytes} {session? : κ → Option Session} {n : Nat}
    {apdu : Bytes} {p : Progress κ W} (h : p.ReplyLags peers session? n apdu)
    (hinjective : ∀ id, Function.Injective (peers id)) :
    p.ReplyLags peers session? 0 apdu ↔
      n = 0 ∨ (p.exchange apdu).1 = .statusOnly .noPreciseDiagnosis := by
  constructor
  · rintro (h6F00 | ⟨link, hlink, hlt, hown⟩)
    · exact Or.inr h6F00
    · rcases h with h6F00 | ⟨link', hlink', hlt', hlags⟩
      · exact Or.inr h6F00
      · rw [hlink] at hlink'
        cases hlink'
        have := hinjective link.id (hlags.symm.trans hown)
        left
        omega
  · rintro (rfl | h6F00)
    · exact h
    · exact Or.inl h6F00

variable [Network W] {peers : Nat → Nat → Bytes} {session? : κ → Option Session} {lag : Option Nat}
  {p : Progress κ W} {apdu : Bytes} {apdus : List Bytes}

omit [Network W] in
/-- An APDU that is a command makes one call and gets its answer, or 6F00. -/
theorem exchange_command {command : Command} (h : Command.parse apdu = .ok command) :
    p.exchange apdu =
      (match ((CardCall.transmit command).perform p.channel p.world).1 with
        | .ok (.response r) => r
        | _ => .statusOnly .noPreciseDiagnosis,
      { p with
        channel := ((CardCall.transmit command).perform p.channel p.world).2.1
        world := ((CardCall.transmit command).perform p.channel p.world).2.2 }) := by
  rcases htr : CardChannel.transmit command p.channel p.world with ⟨result, channel, world⟩
  simp only [exchange, h, htr, CardCall.perform, Outcome.map]
  cases result <;> rfl

/-- What one exchange does to the answers of the session, and whose answer it gives. -/
theorem exchange_lags (ht : Tracks W peers session?) (hp : p.Behind peers session? lag)
    (apdu : Bytes) :
    (p.exchange apdu).2.Behind peers session? (p.lagAfter session? apdu lag) ∧
    (p.exchange apdu).1.encode.length ≤ Frame.maxPayload ∧
    ∀ n, lag = some n → p.ReplyLags peers session? n apdu := by
  have hshort : (Response.statusOnly .noPreciseDiagnosis).encode.length ≤ Frame.maxPayload := by decide
  obtain ⟨s, hs, hb⟩ := hp
  cases hparse : Command.parse apdu with
  | error e =>
    have hx : p.exchange apdu = (.statusOnly .noPreciseDiagnosis, p) := by
      simp only [exchange, hparse]
      rfl
    refine ⟨?_, ?_, ?_⟩
    · rw [lagAfter, hparse, hx]
      exact ⟨s, hs, hb⟩
    · rw [hx]
      exact hshort
    · intro n _
      left
      rw [hx]
  | ok command =>
    have hx := exchange_command (p := p) hparse
    obtain ⟨s', hs', hanswered⟩ := ht (.transmit command) p.channel p.world lag s hs hb
    have hlink : (p.exchange apdu).2.link session? = s'.link := by
      rw [hx]
      simp [link, hs']
    refine ⟨?_, ?_, ?_⟩
    · rw [lagAfter, hparse]
      simp only
      rw [hlink, hx]
      exact ⟨s', hs', hanswered.behind⟩
    · rw [hx]
      split
      · next r hr => exact hanswered.short _ hr
      · exact hshort
    · intro n hn
      unfold ReplyLags
      rw [hlink, hx]
      split
      · next r hr =>
        right
        exact hanswered.paired _ n hr hn
      · left
        rfl

/-- A session's answers fit, so an APDU never ends the service. -/
theorem frame_exchange (ht : Tracks W peers session?) (hp : p.Behind peers session? lag)
    (h1 : apdu.length ≠ 1) :
    p.frame apdu =
      (none, { (p.exchange apdu).2 with
        served := p.served + 1
        written := p.written ++ Frame.encode (p.exchange apdu).1.encode }) := by
  obtain ⟨-, hshort, -⟩ := exchange_lags ht hp apdu
  have hsend : (p.exchange apdu).1.encode.length ≤ 65535 := hshort
  rw [frame_data h1, data, send, if_pos hsend, ← exchange_written apdu p, ← exchange_served apdu p]

/-- The responses go out one for one, by induction on the APDUs; the session behind stays the one that the
answers lag on. -/
theorem frames_replies (ht : Tracks W peers session?) (hp : p.Behind peers session? lag)
    (h1 : ∀ apdu ∈ apdus, apdu.length ≠ 1) :
    (p.frames apdus).1 = none ∧
    (p.frames apdus).2.served = p.served + apdus.length ∧
    (p.frames apdus).2.written =
      p.written ++ (p.replies apdus).flatMap (fun reply => Frame.encode reply.encode) ∧
    (p.frames apdus).2.Behind peers session? (p.lagAlong session? apdus lag) := by
  induction apdus generalizing p lag with
  | nil =>
    refine ⟨rfl, rfl, ?_, hp⟩
    simp [frames, replies]
  | cons apdu apdus ih =>
    have hf := frame_exchange ht hp (h1 apdu List.mem_cons_self)
    have hnone : (p.frame apdu).1 = none := by rw [hf]
    have hnext : (p.frame apdu).2.Behind peers session? (p.lagAfter session? apdu lag) := by
      rw [hf]
      exact (exchange_lags ht hp apdu).1
    obtain ⟨hend, hserved, hwritten, hbehind⟩ :=
      ih hnext fun q hq => h1 q (List.mem_cons_of_mem _ hq)
    rw [frames_cons_none hnone]
    refine ⟨hend, ?_, ?_, hbehind⟩
    · rw [hserved, hf, List.length_cons]
      simp only
      omega
    · rw [hwritten, replies, hf, List.flatMap_cons, List.append_assoc]

end Progress

namespace Service

variable {κ W : Type} [CardChannel W κ] [CancelToken W]

/-- A service before a session that was not used yet, to which a reader sends these APDUs. -/
structure Fronts (session? : κ → Option Session) (apdus : List Bytes) (s : Service κ W) : Prop where
  session : ∃ k, session? s.channel = some k ∧ k.link = none
  data : ∀ apdu ∈ apdus, apdu.length ≠ 1
  short : ∀ apdu ∈ apdus, apdu.length ≤ Frame.maxPayload
  fed : s.Fed (apdus.flatMap Frame.encode) .eof
  quiet : ∀ n, CancelToken.Unset (s.progress.frames (apdus.take n)).2.world

/-- The service answers all APDUs and ends well. Each response is 6F00 or the far card's answer to the request
that is as many requests old as timed out before. So, from a far card that never answers the same twice, it is
its own APDU's or 6F00 exactly if none did or the response is 6F00. -/
structure RepliesLag (peers : Nat → Nat → Bytes) (session? : κ → Option Session)
    (apdus : List Bytes) (s : Service κ W) : Prop where
  ended : (serve s).1 = .hungUp
  served : (serve s).2.served = s.served + apdus.length
  written : (serve s).2.codec.sink.accepted = s.codec.sink.accepted ++
    (s.progress.replies apdus).flatMap fun reply => Frame.encode reply.encode
  inOrder : ∀ before apdu after, apdus = before ++ apdu :: after →
    (s.progress.replies apdus)[before.length]? = some ((s.progress.frames before).2.exchange apdu).1
  lags : ∀ before apdu after, apdus = before ++ apdu :: after →
    ∀ n, s.progress.lagAlong session? before (some 0) = some n →
      (s.progress.frames before).2.ReplyLags peers session? n apdu
  own : (∀ id, Function.Injective (peers id)) → ∀ before apdu after, apdus = before ++ apdu :: after →
    ∀ n, s.progress.lagAlong session? before (some 0) = some n →
      ((s.progress.frames before).2.ReplyLags peers session? 0 apdu ↔
        n = 0 ∨ ((s.progress.frames before).2.exchange apdu).1 = .statusOnly .noPreciseDiagnosis)

variable [Network W] {peers : Nat → Nat → Bytes} {session? : κ → Option Session} {s : Service κ W}
  {apdus : List Bytes}

theorem replies_lag (ht : Tracks W peers session?) (h : s.Fronts session? apdus) :
    s.RepliesLag peers session? apdus := by
  have hfresh : s.progress.Behind peers session? (some 0) := by
    obtain ⟨k, hk, hlink⟩ := h.session
    refine ⟨k, hk, ?_⟩
    simp [Session.Behind, hlink]
  have hsplit := Frame.split_encoded h.short
  obtain ⟨hnone, hserved, hwritten, -⟩ := Progress.frames_replies ht hfresh h.data
  obtain ⟨hprog, hend⟩ := serve_frames h.fed (by
    rw [hsplit]
    exact h.quiet)
  rw [hsplit] at hprog hend
  rw [hnone] at hend
  have hparts : ∀ before apdu after, apdus = before ++ apdu :: after → ∀ q ∈ before, q.length ≠ 1 := by
    intro before apdu after heq q hq
    exact h.data q (heq ▸ List.mem_append_left _ hq)
  have hlags : ∀ before apdu after, apdus = before ++ apdu :: after →
      ∀ n, s.progress.lagAlong session? before (some 0) = some n →
        (s.progress.frames before).2.ReplyLags peers session? n apdu := by
    intro before apdu after heq n hn
    obtain ⟨-, -, -, hbehind⟩ := Progress.frames_replies ht hfresh (hparts before apdu after heq)
    exact (Progress.exchange_lags ht hbehind apdu).2.2 n hn
  refine ⟨hend, ?_, ?_, ?_, hlags, ?_⟩
  · exact (congrArg Progress.served hprog).trans hserved
  · exact (congrArg Progress.written hprog).trans hwritten
  · intro before apdu after heq
    obtain ⟨hbefore, -⟩ := Progress.frames_replies ht hfresh (hparts before apdu after heq)
    rw [heq]
    exact Progress.replies_getElem? hbefore apdu after
  · intro hinjective before apdu after heq n hn
    exact (hlags before apdu after heq n hn).own hinjective

/-- Before a session, bare or normalized, a service answers every APDU, but lags behind by the number of its
earlier exchanges that met the deadline. -/
theorem serve_replies_lag [Host W] (hnet : Answering peers W) :
    (∀ (s : Service Session W) apdus, s.Fronts some apdus → s.RepliesLag peers some apdus) ∧
    (∀ (s : Service (Normalized Session) W) apdus, s.Fronts (fun n => some n.inner) apdus →
      s.RepliesLag peers (fun n => some n.inner) apdus) := by
  have ht : Tracks W peers (some : Session → _) := tracks_session hnet
  constructor
  · intro s apdus h
    exact replies_lag ht h
  · intro s apdus h
    exact replies_lag (tracks_normalized ht) h

/-- Every response is 6F00 or the far card's answer to the APDU that it is sent for. -/
def RepliesPaired (peers : Nat → Nat → Bytes) (session? : κ → Option Session) (apdus : List Bytes)
    (s : Service κ W) : Prop :=
  ∀ before apdu after, apdus = before ++ apdu :: after →
    (s.progress.frames before).2.ReplyLags peers session? 0 apdu

/-- A reader sends two APDUs; the far card's answer to the first comes after the deadline. -/
def lateApdus : List Bytes := [[0x00, 0xB0, 0x00, 0x00], [0x00, 0xB2, 0x00, 0x00]]

def lateFront : Service Session (OnePeer latePeer) where
  channel := { config := {} }
  codec := { source := {
    events := [.chunk [0, 4, 0x00, 0xB0], .chunk [0x00, 0x00, 0, 4], .chunk [0x00, 0xB2, 0x00, 0x00]]
    atEnd := .eof } }
  world := ⟨⟩

theorem lateFront_fronts : lateFront.Fronts some lateApdus := by
  refine ⟨⟨_, rfl, rfl⟩, ?_, ?_, ⟨⟨?_, rfl, rfl⟩, ⟨?_, ?_, rfl, rfl⟩⟩, fun _ => rfl⟩
  · simp [lateApdus]
  · simp [lateApdus, Frame.maxPayload]
  · simp [lateFront]
  · simp [lateFront]
  · simp [lateFront]

/-- The second APDU is answered with the far card's answer to the first. -/
theorem late_answer_is_served :
    Answering (fun _ => lateAnswers) (OnePeer latePeer) ∧ lateFront.Fronts some lateApdus ∧
      ¬ lateFront.RepliesPaired (fun _ => lateAnswers) some lateApdus := by
  refine ⟨latePeer_answering, lateFront_fronts, ?_⟩
  intro h
  rcases h (lateApdus.take 1) [0x00, 0xB2, 0x00, 0x00] [] rfl with h6F00 | ⟨link, hlink, -, hown⟩
  · revert h6F00
    decide
  · cases hlink
    revert hown
    decide

theorem serve_replies_lag_late :
    (serve lateFront).1 = .hungUp ∧
    (serve lateFront).2.codec.sink.accepted = [0, 2, 0x6F, 0x00, 0, 4, 0x3B, 0x80, 0x01, 0x81] ∧
    (lateFront.progress.frames (lateApdus.take 1)).2.ReplyLags (fun _ => lateAnswers) some 1
      [0x00, 0xB2, 0x00, 0x00] := by
  have h := (serve_replies_lag latePeer_answering).1 lateFront lateApdus lateFront_fronts
  exact ⟨h.ended, h.written, h.lags (lateApdus.take 1) _ [] rfl 1 rfl⟩

end Service
end CardLink.VirtualCard
