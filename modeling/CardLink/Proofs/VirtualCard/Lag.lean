import CardLink.Normalization.Channel
import CardLink.Proofs.VirtualCard.Exchange

/-!
# Answers that come late

A peer answers every request with one frame, in order, but possibly after the deadline. A request that
timed out leaves its answer on the stream, so every later request on the connection reads the answer to an
earlier one: it lags by the number of timeouts. A request that is too long for a frame is not written and
changes nothing. Any other failure of an exchange may leave the stream inside a frame; nothing is said of
the answers after that.
-/

namespace CardLink.VirtualCard

/-- The peer's answers in order from a number on, as bytes. -/
def answersFrom (peer : Nat → Bytes) (start count : Nat) : Bytes :=
  (List.range count).flatMap fun i => Frame.encode (peer (start + i))

/-- The bytes are the peer's answers in order from a number on. They may end anywhere. -/
def Answers (peer : Nat → Bytes) (start : Nat) (bytes : Bytes) : Prop :=
  ∃ count, bytes <+: answersFrom peer start count

theorem answersFrom_succ (peer : Nat → Bytes) (start count : Nat) :
    answersFrom peer start (count + 1) =
      Frame.encode (peer start) ++ answersFrom peer (start + 1) count := by
  unfold answersFrom
  rw [List.range_succ_eq_map, List.flatMap_cons, List.flatMap_map, Nat.add_zero]
  congr 1
  refine congrArg (fun f => (List.range count).flatMap f) ?_
  funext i
  rw [Nat.succ_eq_add_one, Nat.add_right_comm, Nat.add_assoc]

/-- A whole frame off the front is the next answer. -/
theorem Answers.next {peer : Nat → Bytes} {start : Nat} {raw rest : Bytes}
    (hpeer : ∀ n, (peer n).length ≤ Frame.maxPayload) (hraw : raw.length ≤ Frame.maxPayload)
    (h : Answers peer start (Frame.encode raw ++ rest)) :
    raw = peer start ∧ Answers peer (start + 1) rest := by
  obtain ⟨count, more, heq⟩ := h
  cases count with
  | zero => simp [answersFrom, Frame.encode, Frame.header] at heq
  | succ count =>
    rw [answersFrom_succ, List.append_assoc] at heq
    have hsplit := congrArg Frame.split heq
    rw [Frame.split_encode hraw, Frame.split_encode (hpeer start)] at hsplit
    have hhead : raw = peer start := (List.cons.inj (congrArg Prod.fst hsplit)).1
    subst hhead
    exact ⟨rfl, count, more, List.append_cancel_left heq⟩

/-- The number of requests written on the connection: all frames but the power-on. -/
def Link.asked (link : Link) : Nat := link.codec.sent - 1

/-- The connection's next answer is the one to the request that many requests ago. -/
structure Link.Lags (peers : Nat → Nat → Bytes) (lag : Nat) (link : Link) : Prop where
  takesAll : link.codec.sink.TakesAll
  sent : lag < link.codec.sent
  answers : Answers (peers link.id) (link.asked - lag) link.codec.source.undelivered

def failureOf {ε α : Type} : Except ε α → Option ε
  | .ok _ => none
  | .error e => some e

/-- How far the answers lag after a failed exchange, if that is known. A timeout leaves the answer on the
stream. -/
def lagAfterFailure (lag : Option Nat) : TransportError → Option Nat
  | .timeout => lag.map (· + 1)
  -- only a request, which was not written then, is longer than any frame
  | .frameTooLarge length _ => if Frame.maxPayload < length then lag else none
  | _ => none

def lagAfter (failure : Option ChannelError) (link : Option Link) (lag : Option Nat) : Option Nat :=
  match link with
  | none => some 0
  | some _ =>
    match failure with
    | some (.transmit e) | some (.transport e) => lagAfterFailure lag e
    | _ => lag

/-- All connections are to peers that take all requests and answer them in order, whenever they do. -/
structure Answering (peers : Nat → Nat → Bytes) (W : Type) [Network W] : Prop where
  short : ∀ id n, (peers id n).length ≤ Frame.maxPayload
  dial : ∀ address deadline (w w' : W) c, Network.dial address deadline w = (.ok c, w') →
    c.sink.TakesAll ∧ Answers (peers c.id) 0 c.source.undelivered
  accept : ∀ port deadline (w w' : W) c, Network.accept port deadline w = (.ok c, w') →
    c.sink.TakesAll ∧ Answers (peers c.id) 0 c.source.undelivered

namespace Session

/-- The session's answers lag that far; without a connection they do not. -/
def Behind (peers : Nat → Nat → Bytes) (lag : Option Nat) (s : Session) : Prop :=
  match s.link with
  | none => lag = some 0
  | some link => ∀ n, lag = some n → link.Lags peers n

/-- An answer is the peer's answer to the request so many requests before the last one, and the lag goes on
from there. -/
structure Answered (peers : Nat → Nat → Bytes) (lag : Option Nat)
    (outcome : Except ChannelError Answer) (s : Session) : Prop where
  behind : s.Behind peers (lagAfter (failureOf outcome) s.link lag)
  paired : ∀ answer n, outcome = .ok answer → lag = some n →
    ∃ link, s.link = some link ∧ n < link.asked ∧
      answerBytes answer = peers link.id (link.asked - 1 - n)
  short : ∀ answer, outcome = .ok answer → (answerBytes answer).length ≤ Frame.maxPayload

/-- A failure before anything was asked changes no lag. -/
theorem Behind.keeps {peers : Nat → Nat → Bytes} {lag : Option Nat} {s : Session}
    {failure : Option ChannelError} (hs : s.Behind peers lag)
    (h : ∀ link lag, lagAfter failure (some link) lag = lag) :
    s.Behind peers (lagAfter failure s.link lag) := by
  cases hlink : s.link with
  | none => simp [Behind, hlink, lagAfter]
  | some link =>
    rw [h]
    exact hs

end Session

section

variable {W : Type} [Network W] {peers : Nat → Nat → Bytes}

theorem dialAny_answering (hnet : Answering peers W) {host : String} {port : Nat}
    {deadline : Option Nat} {cancelled : Bool} {last : Option IoError} {addresses : List Address}
    {w w' : W} {c : Connection}
    (h : dialAny host port deadline cancelled last addresses w = (.ok c, w')) :
    c.sink.TakesAll ∧ Answers (peers c.id) 0 c.source.undelivered := by
  induction addresses generalizing last w with
  | nil => simp [dialAny] at h
  | cons address rest ih =>
    unfold dialAny at h
    split at h
    · simp at h
    · split at h
      · next hdial =>
        cases h
        exact hnet.dial _ _ _ _ _ hdial
      · exact ih h

theorem connect_answering (hnet : Answering peers W) {config : Config} {bound bound' : Option Nat}
    {cancelled : Bool} {w w' : W} {c : Connection}
    (h : connect config bound cancelled w = (.ok c, bound', w')) :
    c.sink.TakesAll ∧ Answers (peers c.id) 0 c.source.undelivered := by
  unfold connect at h
  split at h
  · next host _ =>
    rcases hd : VirtualCard.dial host config.port config.connectTimeout cancelled w with ⟨outcome, w₁⟩
    rw [hd] at h
    cases h
    unfold VirtualCard.dial at hd
    split at hd
    · simp at hd
    · exact dialAny_answering hnet hd
  · unfold VirtualCard.accept at h
    split at h
    · simp at h
    · next port w₁ _ =>
      split at h
      · simp at h
      · rcases ha : Network.accept port config.connectTimeout w₁ with ⟨outcome, w₂⟩
        rw [ha] at h
        cases h
        exact hnet.accept _ _ _ _ _ ha

theorem establish_answering (hnet : Answering peers W) {config : Config} {bound bound' : Option Nat}
    {cancelled : Bool} {w w' : W} {link : Link}
    (h : establish config bound cancelled w = (.ok link, bound', w')) :
    link.codec.sink.TakesAll ∧ link.codec.sent = 0 ∧
      Answers (peers link.id) 0 link.codec.source.undelivered := by
  unfold establish at h
  split at h
  · simp at h
  · next c bound₁ w₁ hconnect =>
    obtain ⟨htakes, hanswers⟩ := connect_answering hnet hconnect
    simp only at h
    split at h
    · simp at h
    · cases h
      exact ⟨htakes, rfl, hanswers⟩

namespace Session

/-- The connection that a call finds or opens is as far behind as before; none is left if none was opened. -/
theorem open_behind (hnet : Answering peers W) {s : Session} {lag : Option Nat}
    (hs : s.Behind peers lag) (w : W) :
    (∃ link s' w', s.open? w = (.ok link, s', w') ∧ s'.link = some link ∧ s'.Behind peers lag) ∨
    (∃ e s' w', s.open? w = (.error e, s', w') ∧
      s'.Behind peers (lagAfter (some e) s'.link lag)) := by
  unfold open?
  by_cases hclosed : s.closed = true
  · refine Or.inr ⟨.closed, s, w, by simp [hclosed], ?_⟩
    cases hlink : s.link with
    | none => simp [Behind, hlink, lagAfter]
    | some link => exact hs
  · rw [if_neg hclosed]
    cases hlink : s.link with
    | some link => exact Or.inl ⟨link, s, w, rfl, hlink, hs⟩
    | none =>
      obtain rfl : lag = some 0 := by simpa [Behind, hlink] using hs
      have unlinked : ∀ (e : ChannelError) (s' : Session) (w' : W), s'.link = none →
          s'.Behind peers (lagAfter (some e) s'.link (some 0)) := by
        intro e s' _ h
        simp [Behind, h, lagAfter]
      unfold Session.establish
      simp only
      split
      · next heq => exact Or.inr ⟨_, _, _, rfl, unlinked _ _ w hlink⟩
      · next link bound w₁ heq =>
        obtain ⟨htakes, hsent, hanswers⟩ := establish_answering hnet heq
        obtain ⟨c, hw, hwrote⟩ := Codec.writeCommand_takesAll htakes .powerOn
        rw [hw]
        refine Or.inl ⟨_, _, _, rfl, rfl, ?_⟩
        intro n hn
        cases hn
        refine ⟨hwrote.takesAll, ?_, ?_⟩
        · simp only [hwrote.sent]
          omega
        · simpa [Link.asked, hwrote.sent, hsent, hwrote.source] using hanswers

end Session

namespace CardCall

/-- An exchange that succeeds reads the answer that is due. -/
theorem exchange_ok_lags (hnet : Answering peers W) {link : Link} {n : Nat} (hl : link.Lags peers n)
    {call : CardCall} {raw : Bytes} {c : Codec}
    (hx : Session.exchange call.write link.codec = (.ok raw, c)) :
    n < c.sent - 1 ∧ raw = peers link.id (c.sent - 1 - 1 - n) ∧
      Link.Lags peers n { link with codec := c } := by
  have hasked := hl.sent
  unfold Session.exchange at hx
  rcases write_or_refuse call hl.takesAll with ⟨-, c₁, hw, hwrote⟩ | ⟨-, hw⟩
  · rw [hw] at hx
    obtain ⟨hc, hshort, hund⟩ := Codec.readResponse_ok hx
    have hsent : c.sent = link.codec.sent + 1 := by rw [hc, ← hwrote.sent]
    have hanswers := hl.answers
    rw [← hwrote.source, hund] at hanswers
    obtain ⟨hfirst, hrest⟩ := hanswers.next (hnet.short link.id) hshort
    refine ⟨by omega, ?_, ?_, ?_, ?_⟩
    · rw [hfirst, Link.asked, hsent]
      rw [show link.codec.sent + 1 - 1 - 1 - n = link.codec.sent - 1 - n by omega]
    · rw [hc]
      exact hwrote.takesAll
    · simp only [hsent]
      omega
    · simp only [Link.asked, hsent] at hrest ⊢
      rw [show link.codec.sent + 1 - 1 - n = link.codec.sent - 1 - n + 1 by omega]
      exact hrest
  · rw [hw] at hx
    cases hx

/-- An exchange that fails without taking a byte leaves the answer that is due. -/
theorem exchange_failed_lags {link : Link} {n m : Nat} (hl : link.Lags peers n) {call : CardCall}
    {e : TransportError} {c : Codec} (hx : Session.exchange call.write link.codec = (.error e, c))
    (hm : lagAfterFailure (some n) e = some m) : Link.Lags peers m { link with codec := c } := by
  have hasked := hl.sent
  unfold Session.exchange at hx
  rcases write_or_refuse call hl.takesAll with ⟨-, c₁, hw, hwrote⟩ | ⟨hlong, hw⟩
  · rw [hw] at hx
    cases e with
    | timeout =>
      obtain rfl : n + 1 = m := Option.some.inj hm
      obtain ⟨hc, hund⟩ := Codec.readResponse_timeout hx
      have hsent : c.sent = link.codec.sent + 1 := by rw [hc, ← hwrote.sent]
      refine ⟨?_, ?_, ?_⟩
      · rw [hc]
        exact hwrote.takesAll
      · simp only [hsent]
        omega
      · simp only [Link.asked, hsent, hund, hwrote.source]
        rw [show link.codec.sent + 1 - 1 - (n + 1) = link.codec.sent - 1 - n by omega]
        exact hl.answers
    | frameTooLarge length max =>
      have hlength := Codec.readResponse_tooLarge hx
      rw [lagAfterFailure, if_neg (Nat.not_lt.mpr hlength)] at hm
      cases hm
    | _ => cases hm
  · rw [hw] at hx
    cases hx
    rw [lagAfterFailure, if_pos hlong] at hm
    cases hm
    exact hl

theorem exchange_short {call : CardCall} {c c' : Codec} {raw : Bytes}
    (hx : Session.exchange call.write c = (.ok raw, c')) : raw.length ≤ Frame.maxPayload := by
  unfold Session.exchange at hx
  split at hx
  · cases hx
  · exact (Codec.readResponse_ok hx).2.1

/-- The failure of an exchange tells how the lag goes on. -/
theorem lagAfter_failure (call : CardCall) (e : TransportError) (link : Link) (lag : Option Nat) :
    lagAfter (some (call.failure e)) (some link) lag = lagAfterFailure lag e := by
  cases call <;> rfl

/-- What was not known before a failure is not known after it. -/
theorem lagAfterFailure_none (e : TransportError) : lagAfterFailure none e = none := by
  cases e with
  | frameTooLarge length max =>
    rw [lagAfterFailure]
    split <;> rfl
  | _ => rfl

/-- An answer that makes no sense is an answer all the same. -/
theorem lagAfter_understand (call : CardCall) (raw : Bytes) (link : Link) (lag : Option Nat) :
    lagAfter (failureOf (call.understand raw)) (some link) lag = lag := by
  cases call with
  | transmit c =>
    simp only [understand]
    cases Response.parse raw <;> rfl
  | atr => rfl

theorem perform_answered (hnet : Answering peers W) {s : Session} {lag : Option Nat}
    (hs : s.Behind peers lag) (call : CardCall) (w : W) :
    Session.Answered peers lag (call.perform s w).1 (call.perform s w).2.1 := by
  rcases Session.open_behind hnet hs w with
    ⟨link, s', w', hopen, hlink, hbehind⟩ | ⟨e, s', w', hopen, hbehind⟩
  · rw [perform_of_open hopen]
    rcases hx : Session.exchange call.write link.codec with ⟨outcome, c⟩
    have hlags : ∀ n, lag = some n → link.Lags peers n := by
      simpa [Session.Behind, hlink] using hbehind
    cases outcome with
    | error e =>
      refine ⟨?_, ?_, ?_⟩
      · simp only [report, failureOf, Session.withCodec, lagAfter_failure, Session.Behind]
        intro n hn
        cases lag with
        | none =>
          rw [lagAfterFailure_none] at hn
          cases hn
        | some m => exact exchange_failed_lags (hlags m rfl) hx hn
      · intro answer n h
        simp [report] at h
      · intro answer h
        simp [report] at h
    | ok raw =>
      refine ⟨?_, ?_, ?_⟩
      · simp only [report, Session.withCodec, lagAfter_understand, Session.Behind]
        intro n hn
        exact (exchange_ok_lags hnet (hlags n hn) hx).2.2
      · intro answer n h hn
        obtain ⟨hle, hraw, -⟩ := exchange_ok_lags hnet (hlags n hn) hx
        refine ⟨{ link with codec := c }, rfl, hle, ?_⟩
        rw [answerBytes_of_understand h]
        exact hraw
      · intro answer h
        rw [answerBytes_of_understand h]
        exact exchange_short hx
  · rw [perform_of_refused hopen]
    refine ⟨hbehind, ?_, ?_⟩
    · intro answer n h
      cases h
    · intro answer h
      cases h

end CardCall

/-! ## Channels around a session -/

/-- Calls on the channel are calls on the session inside. -/
def Tracks (W : Type) {κ : Type} [Network W] [CardChannel W κ] (peers : Nat → Nat → Bytes)
    (session? : κ → Option Session) : Prop :=
  ∀ (call : CardCall) (k : κ) (w : W) (lag : Option Nat) (s : Session), session? k = some s →
    s.Behind peers lag → ∃ s', session? (call.perform k w).2.1 = some s' ∧
      Session.Answered peers lag (call.perform k w).1 s'

theorem tracks_session (hnet : Answering peers W) : Tracks W peers (some : Session → _) := by
  intro call k w lag s hk hs
  cases hk
  exact ⟨_, rfl, CardCall.perform_answered hnet hs call w⟩

variable {κ κ' : Type} [CardChannel W κ] [CardChannel W κ']

theorem tracks_inl {session? : κ → Option Session} (h : Tracks W peers session?) :
    Tracks W peers (Sum.elim session? fun _ : κ' => none) := by
  intro call k w lag s hk hs
  cases k with
  | inr k => cases hk
  | inl k =>
    obtain ⟨s', hk', hanswered⟩ := h call k w lag s hk hs
    cases call with
    | transmit c => exact ⟨s', hk', hanswered⟩
    | atr => exact ⟨s', hk', hanswered⟩

theorem tracks_normalized [ChannelTraits κ] [Host W] {session? : κ → Option Session}
    (h : Tracks W peers session?) : Tracks W peers fun n : Normalized κ => session? n.inner := by
  intro call n w lag s hn hs
  cases call with
  | atr => exact h .atr n.inner w lag s hn hs
  | transmit c =>
    have hinner := h (.transmit (n.normalize c)) n.inner
      (Normalized.logIf n.options.debug (.request (n.normalize c)) w) lag s hn hs
    simp only [CardCall.perform] at hinner
    simp only [CardCall.perform, CardChannel.transmit, Normalized.transmit]
    cases hcheck : (n.normalize c).checkLengths with
    | error e =>
      refine ⟨s, hn, hs.keeps (fun _ _ => rfl), ?_, ?_⟩
      · intro answer m hanswer
        cases hanswer
      · intro answer hanswer
        cases hanswer
    | ok _ =>
      rcases htr : CardChannel.transmit (n.normalize c) n.inner
        (Normalized.logIf n.options.debug (.request (n.normalize c)) w) with ⟨outcome, inner, w'⟩
      rw [htr] at hinner
      simp only [Normalized.forward, htr]
      exact hinner

end

/-! ## One peer for everybody -/

/-- A network on which every connection is to a peer that sends the same. -/
structure OnePeer (source : Source) where

instance {source : Source} : Network (OnePeer source) where
  resolve _ port w := (.ok [⟨.loopback, port⟩], w)
  dial _ _ w := (.ok ⟨0, source, {}⟩, w)
  bind port w := (.ok port, w)
  accept _ _ w := (.ok ⟨0, source, {}⟩, w)
  hangUp _ _ w := w
  unbind _ w := w

instance {source : Source} : Host (OnePeer source) where
  now _ := 0
  log _ w := w

instance {source : Source} : CancelToken (OnePeer source) where
  poll w := (false, w)

theorem onePeer_answering {source : Source} {peer : Nat → Bytes}
    (hshort : ∀ n, (peer n).length ≤ Frame.maxPayload) (h : Answers peer 0 source.undelivered) :
    Answering (fun _ => peer) (OnePeer source) := by
  have htakes : ({} : Sink).TakesAll := ⟨by simp, by simp, rfl, rfl⟩
  refine ⟨fun _ => hshort, ?_, ?_⟩
  · intro address deadline w w' c hdial
    cases hdial
    exact ⟨htakes, h⟩
  · intro port deadline w w' c haccept
    cases haccept
    exact ⟨htakes, h⟩

/-- A peer whose first answer comes after the deadline of the first read. -/
def latePeer : Source where
  events := [.failure { kind := .timedOut }, .chunk [0, 4, 0x3B, 0x80, 0x01, 0x81],
    .chunk [0, 2, 0x90, 0x00]]
  atEnd := .silent

def lateAnswers : Nat → Bytes
  | 0 => [0x3B, 0x80, 0x01, 0x81]
  | _ => [0x90, 0x00]

theorem latePeer_answering : Answering (fun _ => lateAnswers) (OnePeer latePeer) := by
  refine onePeer_answering ?_ ⟨2, [], rfl⟩
  intro n
  cases n with
  | zero => decide
  | succ n => exact Nat.le_of_ble_eq_true rfl

end CardLink.VirtualCard
