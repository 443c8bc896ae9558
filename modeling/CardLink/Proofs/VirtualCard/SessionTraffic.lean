import CardLink.Proofs.VirtualCard.Exchange
import CardLink.VirtualCard.LocalHost

/-!
# What a session sends

The bytes that a session sends over its life are a power-on frame, the frames of the requests in the order of
the calls, and a reset frame, all on one connection that the first call in need of the card opens. A session
that no such call was made on sends nothing. All of it is on the condition that a peer can be reached and
takes all writes; what the peer sends back changes nothing here.
-/

namespace CardLink

/-- The exchange that a request comes down to, on the channel or on its card. -/
def ChannelRequest.asks : ChannelRequest → Option VirtualCard.CardCall
  | .transmit c | .exchange c | .card (.basicTransmit c) | .card (.logicalTransmit c) => some (.transmit c)
  | .atr | .card .atr => some .atr
  | _ => none

def ChannelRequest.ends : ChannelRequest → Bool
  | .close | .disconnect _ | .card (.disconnect _) => true
  | _ => false

namespace VirtualCard

inductive SessionCall where
  | bind
  | connect
  | request (r : ChannelRequest)

namespace SessionCall

def asks : SessionCall → Option CardCall
  | .request r => r.asks
  | _ => none

def ends : SessionCall → Bool
  | .request r => r.ends
  | _ => false

def opens (call : SessionCall) : Bool := call matches .connect || call.asks.isSome

/-- The bytes of the request that the call makes, if any. -/
def frame (call : SessionCall) : Bytes := (call.asks.map CardCall.frame).getD []

section

variable {W : Type} [Network W]

def perform (call : SessionCall) (s : Session) (w : W) : Outcome Session W Answer :=
  match call with
  | .bind => (s.bind w).map fun _ => .done
  | .connect => (s.connect w).map fun _ => .done
  | .request r => r.perform s w

def run : List SessionCall → Session → W → List (Except ChannelError Answer) × Session × W
  | [], s, w => ([], s, w)
  | call :: calls, s, w =>
    let (outcome, s, w) := call.perform s w
    let (outcomes, s, w) := run calls s w
    (outcome :: outcomes, s, w)

theorem run_cons (call : SessionCall) (calls : List SessionCall) (s : Session) (w : W) :
    run (call :: calls) s w =
      ((call.perform s w).1 :: (run calls (call.perform s w).2.1 (call.perform s w).2.2).1,
        (run calls (call.perform s w).2.1 (call.perform s w).2.2).2) := rfl

theorem run_append (calls calls' : List SessionCall) (s : Session) (w : W) :
    run (calls ++ calls') s w =
      ((run calls s w).1 ++ (run calls' (run calls s w).2.1 (run calls s w).2.2).1,
        (run calls' (run calls s w).2.1 (run calls s w).2.2).2) := by
  induction calls generalizing s w with
  | nil => rfl
  | cons call calls ih => simp only [List.cons_append, run_cons, ih]

theorem length_run (calls : List SessionCall) (s : Session) (w : W) :
    (run calls s w).1.length = calls.length := by
  induction calls generalizing s w with
  | nil => rfl
  | cons call calls ih => rw [run_cons, List.length_cons, List.length_cons, ih]

/-! ## Each kind of call -/

theorem perform_asks {call : SessionCall} {card : CardCall} (h : call.asks = some card)
    (s : Session) (w : W) : call.perform s w = card.perform s w := by
  cases call with
  | bind => cases h
  | connect => cases h
  | request r =>
    cases r with
    | transmit c | exchange c | atr =>
      cases h
      rfl
    | card r =>
      cases r with
      | basicTransmit c | logicalTransmit c | atr =>
        cases h
        rfl
      | _ => cases h
    | _ => cases h

theorem perform_ends {call : SessionCall} (h : call.ends) (s : Session) (w : W) :
    call.perform s w = (.ok .done, s.shut w) := by
  cases call with
  | bind => cases h
  | connect => cases h
  | request r =>
    cases r with
    | close => rfl
    | disconnect reset => rfl
    | card r =>
      cases r with
      | disconnect reset => rfl
      | _ => cases h
    | _ => cases h

/-- The other calls touch neither the session nor the network. -/
theorem perform_quiet {r : ChannelRequest} (hasks : r.asks = none) (hends : r.ends = false)
    (s : Session) (w : W) : (perform (.request r) s w).2 = (s, w) := by
  cases r with
  | transmit | exchange | atr => cases hasks
  | close | disconnect => cases hends
  | card r =>
    cases r with
    | atr | basicTransmit | logicalTransmit => cases hasks
    | disconnect => cases hends
    | _ => rfl
  | _ => rfl

end
end SessionCall

/-! ## Bytes on the network -/

/-- The world tells all bytes that were sent on connections that ended. -/
structure Ledger {W : Type} [Network W] (sent : W → Bytes) : Prop where
  resolve : ∀ host port w, sent (Network.resolve host port w).2 = sent w
  dial : ∀ address deadline w, sent (Network.dial address deadline w).2 = sent w
  bind : ∀ port w, sent (Network.bind port w).2 = sent w
  accept : ∀ port deadline w, sent (Network.accept port deadline w).2 = sent w
  unbind : ∀ port w, sent (Network.unbind port w) = sent w
  hangUp : ∀ id codec w, sent (Network.hangUp id codec w) = sent w ++ codec.sink.accepted

namespace Ledger

variable {W : Type} [Network W] {sent : W → Bytes}

theorem listen (h : Ledger sent) (port : Nat) (bound : Option Nat) (w : W) :
    sent (VirtualCard.listen port bound w).2 = sent w := by
  unfold VirtualCard.listen
  cases bound with
  | some port => rfl
  | none =>
    have hbind := h.bind port w
    simp only
    split <;> next heq =>
      rw [heq] at hbind
      exact hbind

theorem dialAny (h : Ledger sent) (host : String) (port : Nat) (deadline : Option Nat) (cancelled : Bool)
    (last : Option IoError) (addresses : List Address) (w : W) :
    sent (VirtualCard.dialAny host port deadline cancelled last addresses w).2 = sent w := by
  induction addresses generalizing last w with
  | nil => rfl
  | cons address rest ih =>
    have hdial := h.dial address deadline w
    unfold VirtualCard.dialAny
    split
    · rfl
    · split
      · next heq =>
        rw [heq] at hdial
        exact hdial
      · next heq =>
        rw [heq] at hdial
        exact (ih _ _).trans hdial

theorem connect (h : Ledger sent) (config : Config) (bound : Option Nat) (cancelled : Bool) (w : W) :
    sent (VirtualCard.connect config bound cancelled w).2.2 = sent w := by
  unfold VirtualCard.connect
  split
  · next host _ =>
    have hresolve := h.resolve host config.port w
    simp only [VirtualCard.dial]
    split
    · next heq =>
      rw [heq] at hresolve
      exact hresolve
    · next heq =>
      rw [heq] at hresolve
      exact (h.dialAny _ _ _ _ _ _ _).trans hresolve
  · have hlisten := h.listen config.port bound w
    unfold VirtualCard.accept
    split
    · next heq =>
      rw [heq] at hlisten
      exact hlisten
    · next port w₁ heq =>
      rw [heq] at hlisten
      split
      · exact hlisten
      · exact (h.accept port config.connectTimeout w₁).trans hlisten

theorem establish (h : Ledger sent) {config : Config} {bound bound' : Option Nat} {cancelled : Bool}
    {w w' : W} {link : Link} (hlink : VirtualCard.establish config bound cancelled w = (.ok link, bound', w')) :
    sent w' = sent w := by
  have hconnect := h.connect config bound cancelled w
  unfold VirtualCard.establish at hlink
  split at hlink
  · cases hlink
  · next heq =>
    rw [heq] at hconnect
    simp only at hlink
    split at hlink
    · cases hlink
    · cases hlink
      exact hconnect

end Ledger

namespace Session

def written (s : Session) : Bytes :=
  match s.link with
  | none => []
  | some link => link.codec.sink.accepted

section

variable {W : Type} [Network W] {sent : W → Bytes} {s : Session} {c : Codec} {w : W}

theorem written_isOn (h : s.IsOn c) : s.written = c.sink.accepted := by
  obtain ⟨id, hlink⟩ := h.link
  rw [written, hlink]

theorem bind_sends (hledger : Ledger sent) (s : Session) (w : W) : sent (s.bind w).2.2 = sent w := by
  have hlisten := hledger.listen s.config.port s.bound w
  unfold bind
  split
  · rfl
  · split
    · split <;> next heq =>
        rw [heq] at hlisten
        exact hlisten
    · rfl

theorem bind_isOn (h : s.IsOn c) (w : W) : (s.bind w).2.1.IsOn c := by
  unfold bind
  split
  · exact h
  · split
    · split <;> exact ⟨h.opened, h.link⟩
    · exact h

theorem shut_closed (s : Session) (w : W) : (s.shut w).1.closed = true := by
  unfold shut
  split
  · assumption
  · rfl

theorem shut_isOn (hledger : Ledger sent) (h : s.IsOn c) (htakes : c.sink.TakesAll) (w : W) :
    (s.shut w).1.written = [] ∧
      sent (s.shut w).2 = sent w ++ (c.sink.accepted ++ Frame.control .reset) := by
  obtain ⟨id, hlink⟩ := h.link
  obtain ⟨c', hwrite, hwrote⟩ := Codec.writeCommand_takesAll htakes .reset
  unfold shut
  rw [h.opened, if_neg (by decide), hlink]
  refine ⟨rfl, ?_⟩
  simp only [hwrite]
  cases s.bound with
  | none => simp only [hledger.hangUp, hwrote.accepted]
  | some port => simp only [hledger.unbind, hledger.hangUp, hwrote.accepted]

theorem shut_unlinked (hledger : Ledger sent) (hlink : s.link = none) (w : W) :
    (s.shut w).1.written = [] ∧ sent (s.shut w).2 = sent w := by
  unfold shut
  split
  · exact ⟨by rw [written, hlink], rfl⟩
  · refine ⟨rfl, ?_⟩
    simp only [hlink]
    cases s.bound with
    | none => rfl
    | some port => exact hledger.unbind port w

/-- A peer takes the connection that would be opened now, and all that is written on it. -/
def PeerWaits (s : Session) (w : W) : Prop :=
  ∃ link bound w', VirtualCard.establish s.config s.bound s.cancelled w = (.ok link, bound, w') ∧
    link.codec.sink.TakesAll ∧ link.codec.sink.accepted = []

def bindTimes : Nat → Session → W → Session × W
  | 0, s, w => (s, w)
  | n + 1, s, w => bindTimes n (s.bind w).2.1 (s.bind w).2.2

/-- A session before its first connection, with a peer that waits for it however often a port was asked for. -/
structure Unused (s : Session) (w : W) : Prop where
  opened : s.closed = false
  link : s.link = none
  peer : ∀ n, PeerWaits (bindTimes n s w).1 (bindTimes n s w).2

theorem Unused.bind (h : Unused s w) : Unused (s.bind w).2.1 (s.bind w).2.2 := by
  refine ⟨?_, ?_, fun n => h.peer (n + 1)⟩
  · unfold Session.bind
    split
    · exact h.opened
    · split
      · split <;> exact h.opened
      · exact h.opened
  · unfold Session.bind
    split
    · exact h.link
    · split
      · split <;> exact h.link
      · exact h.link

/-- The first call in need of a connection opens one and powers the card. -/
theorem Unused.open? (hledger : Ledger sent) (h : Unused s w) :
    ∃ link s₁ w₁, s.open? w = (.ok link, s₁, w₁) ∧ s₁.closed = false ∧ s₁.link = some link ∧
      link.codec.sink.TakesAll ∧ link.codec.sink.accepted = Frame.control .powerOn ∧ sent w₁ = sent w := by
  obtain ⟨link, bound, w₁, hestablish, htakes, hempty⟩ := h.peer 0
  obtain ⟨c, hwrite, hwrote⟩ := Codec.writeCommand_takesAll htakes .powerOn
  refine ⟨{ link with codec := c }, { s with bound, link := some { link with codec := c } }, w₁, ?_,
    h.opened, rfl, hwrote.takesAll, ?_, hledger.establish hestablish⟩
  · have hestablish' : VirtualCard.establish s.config s.bound s.cancelled w = _ := hestablish
    simp [Session.open?, h.opened, h.link, Session.establish, hestablish', hwrite]
  · simp [hwrote.accepted, hempty]

end
end Session

namespace SessionCall

variable {W : Type} [Network W] {sent : W → Bytes} {s : Session} {c : Codec}

theorem perform_closed (h : s.closed = true) (call : SessionCall) (w : W) :
    (call.perform s w).2 = (s, w) ∧ (call.opens → (call.perform s w).1 = .error .closed) := by
  have hopen : s.open? w = (.error .closed, s, w) := by simp [Session.open?, h]
  cases hasks : call.asks with
  | some card =>
    rw [perform_asks hasks, CardCall.perform_of_refused hopen]
    exact ⟨rfl, fun _ => rfl⟩
  | none =>
    by_cases hends : call.ends
    · have hneeds : call.opens = false := by
        cases call <;> simp_all [opens, ends]
      rw [perform_ends hends, hneeds]
      exact ⟨by simp [Session.shut, h], by simp⟩
    · cases call with
      | bind =>
        simp only [perform, Session.bind, h, if_true]
        exact ⟨rfl, by simp [opens, asks]⟩
      | connect =>
        simp only [perform, Session.connect, hopen]
        exact ⟨rfl, fun _ => rfl⟩
      | request r =>
        exact ⟨perform_quiet hasks (Bool.eq_false_iff.mpr hends) s w, by simp [opens, hasks]⟩

/-- On a connection a call sends its frame and nothing else. -/
theorem perform_isOn (hledger : Ledger sent) (hs : s.IsOn c) (htakes : c.sink.TakesAll)
    {call : SessionCall} (hends : call.ends = false) (w : W) :
    ∃ c', (call.perform s w).2.1.IsOn c' ∧ c'.sink.TakesAll ∧
      c'.sink.accepted = c.sink.accepted ++ call.frame ∧ sent (call.perform s w).2.2 = sent w := by
  cases hasks : call.asks with
  | some card =>
    obtain ⟨-, hon, hworld⟩ := CardCall.perform_isOn hs card w
    obtain ⟨htakes', haccepted⟩ := card.exchange_sends htakes
    rw [perform_asks hasks]
    refine ⟨_, hon, htakes', ?_, by rw [hworld]⟩
    simpa [frame, hasks] using haccepted
  | none =>
    have hframe : call.frame = [] := by simp [frame, hasks]
    rw [hframe, List.append_nil]
    cases call with
    | bind => exact ⟨c, Session.bind_isOn hs w, htakes, rfl, Session.bind_sends hledger s w⟩
    | connect =>
      obtain ⟨id, hopen⟩ := Session.open_isOn hs w
      simp only [perform, Session.connect, hopen]
      exact ⟨c, hs, htakes, rfl, rfl⟩
    | request r =>
      have hquiet := perform_quiet hasks hends s w
      rw [hquiet]
      exact ⟨c, hs, htakes, rfl, rfl⟩

/-- A call that needs a connection does the same as if a powered one had been there. -/
theorem perform_unused {w : W} (hledger : Ledger sent) (hs : s.Unused w) {call : SessionCall}
    (hopens : call.opens) :
    ∃ s₁ c w₁, s₁.IsOn c ∧ c.sink.TakesAll ∧ c.sink.accepted = Frame.control .powerOn ∧
      sent w₁ = sent w ∧ call.perform s w = call.perform s₁ w₁ := by
  obtain ⟨link, s₁, w₁, hopen, hopened, hlink, htakes, haccepted, hsent⟩ := hs.open? hledger
  refine ⟨s₁, link.codec, w₁, ⟨hopened, link.id, hlink⟩, htakes, haccepted, hsent, ?_⟩
  cases hasks : call.asks with
  | some card =>
    rw [perform_asks hasks, perform_asks hasks]
    exact CardCall.perform_open hopen hopened hlink card
  | none =>
    cases call with
    | bind => simp [opens, hasks] at hopens
    | request r => simp [opens, hasks] at hopens
    | connect =>
      have hagain : s₁.open? w₁ = (.ok link, s₁, w₁) := by simp [Session.open?, hopened, hlink]
      simp only [perform, Session.connect, hopen, hagain]

theorem perform_waits {w : W} (hledger : Ledger sent) (hs : s.Unused w) {call : SessionCall}
    (hopens : call.opens = false) (hends : call.ends = false) :
    (call.perform s w).2.1.Unused (call.perform s w).2.2 ∧ sent (call.perform s w).2.2 = sent w := by
  cases call with
  | bind => exact ⟨hs.bind, Session.bind_sends hledger s w⟩
  | connect => simp [opens] at hopens
  | request r =>
    have hasks : r.asks = none := by simpa [opens, asks] using hopens
    have hquiet := perform_quiet hasks hends s w
    rw [hquiet]
    exact ⟨hs, rfl⟩

/-! ## A whole life -/

/-- The bytes that the calls make a new session send: those of the calls before the first that closes it, and
the reset once it is closed. -/
def traffic (calls : List SessionCall) (closed : Bool) : Bytes :=
  let before := calls.takeWhile (!·.ends)
  if before.any (·.opens) then
    Frame.control .powerOn ++ before.flatMap frame ++ if closed then Frame.control .reset else []
  else []

theorem run_closed (h : s.closed = true) (calls : List SessionCall) (w : W) :
    (run calls s w).2 = (s, w) := by
  induction calls with
  | nil => rfl
  | cons call calls ih => rw [run_cons, (perform_closed h call w).1, ih]

theorem run_ended {calls : List SessionCall} (h : calls.any (·.ends)) (s : Session) (w : W) :
    (run calls s w).2.1.closed = true := by
  induction calls generalizing s w with
  | nil => cases h
  | cons call calls ih =>
    rw [run_cons]
    by_cases hends : call.ends
    · rw [perform_ends hends, run_closed (Session.shut_closed s w)]
      exact Session.shut_closed s w
    · exact ih (by simpa [hends] using h) _ _

/-- From one world to another a session has sent some bytes, and it has sent all when it is let go of. -/
structure Sends (sent : W → Bytes) (w : W) (sofar all : Bytes) (s' : Session) (w' : W) : Prop where
  sofar : sent w' ++ s'.written = sent w ++ sofar
  all : sent (CardChannel.release s' w') = sent w ++ all

theorem sends_closed {w w' : W} {bytes : Bytes} (hclosed : s.closed = true) (hwritten : s.written = [])
    (hsent : sent w' = sent w ++ bytes) : Sends sent w bytes bytes s w' := by
  constructor
  · rw [hwritten, List.append_nil, hsent]
  · have hrelease : CardChannel.release s w' = w' := by
      simp [CardChannel.release, Session.shut, hclosed]
    rw [hrelease, hsent]

theorem run_isOn (hledger : Ledger sent) (hs : s.IsOn c) (htakes : c.sink.TakesAll)
    (calls : List SessionCall) (w : W) :
    Sends sent w
      (c.sink.accepted ++ (calls.takeWhile (!·.ends)).flatMap frame ++
        if calls.any (·.ends) then Frame.control .reset else [])
      (c.sink.accepted ++ (calls.takeWhile (!·.ends)).flatMap frame ++ Frame.control .reset)
      (run calls s w).2.1 (run calls s w).2.2 := by
  induction calls generalizing s c w with
  | nil =>
    obtain ⟨-, hsent⟩ := Session.shut_isOn hledger hs htakes w
    constructor
    · simp [run, Session.written_isOn hs]
    · simpa [run, CardChannel.release] using hsent
  | cons call calls ih =>
    rw [run_cons]
    by_cases hends : call.ends
    · obtain ⟨hwritten, hsent⟩ := Session.shut_isOn hledger hs htakes w
      rw [perform_ends hends, run_closed (Session.shut_closed s w)]
      simpa [hends] using sends_closed (Session.shut_closed s w) hwritten hsent
    · have hgoes : call.ends = false := Bool.eq_false_iff.mpr hends
      obtain ⟨c', hs', htakes', haccepted, hsent⟩ := perform_isOn hledger hs htakes hgoes w
      obtain ⟨hsofar, hall⟩ := ih hs' htakes' (call.perform s w).2.2
      rw [hsent, haccepted] at hsofar hall
      constructor
      · simpa [hgoes] using hsofar
      · simpa [hgoes] using hall

theorem run_unused {w : W} (hledger : Ledger sent) (hs : s.Unused w) (calls : List SessionCall) :
    Sends sent w (traffic calls (calls.any (·.ends))) (traffic calls true)
      (run calls s w).2.1 (run calls s w).2.2 := by
  induction calls generalizing s w with
  | nil =>
    obtain ⟨-, hsent⟩ := Session.shut_unlinked hledger hs.link w
    constructor
    · simp [run, traffic, Session.written, hs.link]
    · simpa [run, traffic, CardChannel.release] using hsent
  | cons call calls ih =>
    by_cases hends : call.ends
    · -- nothing was opened, so nothing is sent
      obtain ⟨hwritten, hsent⟩ := Session.shut_unlinked hledger hs.link w
      rw [run_cons, perform_ends hends, run_closed (Session.shut_closed s w)]
      have hnone : sent (s.shut w).2 = sent w ++ [] := by rw [hsent, List.append_nil]
      simpa [traffic, hends] using sends_closed (Session.shut_closed s w) hwritten hnone
    · have hgoes : call.ends = false := Bool.eq_false_iff.mpr hends
      by_cases hopens : call.opens
      · obtain ⟨s₁, c, w₁, hs₁, htakes, haccepted, hsent, hperform⟩ := perform_unused hledger hs hopens
        have hrun : run (call :: calls) s w = run (call :: calls) s₁ w₁ := by
          rw [run_cons, run_cons, hperform]
        obtain ⟨hsofar, hall⟩ := run_isOn hledger hs₁ htakes (call :: calls) w₁
        rw [haccepted, hsent, ← hrun] at hsofar hall
        constructor
        · simpa [traffic, hgoes, hopens] using hsofar
        · simpa [traffic, hgoes, hopens] using hall
      · have hstays : call.opens = false := Bool.eq_false_iff.mpr hopens
        have hframe : call.frame = [] := by
          cases hasks : call.asks with
          | none => simp [frame, hasks]
          | some card => simp [opens, hasks] at hstays
        obtain ⟨hs', hsent⟩ := perform_waits hledger hs hstays hgoes
        obtain ⟨hsofar, hall⟩ := ih hs'
        rw [hsent] at hsofar hall
        rw [run_cons]
        constructor
        · simpa [traffic, hgoes, hstays, hframe] using hsofar
        · simpa [traffic, hgoes, hstays, hframe] using hall

/-- A session sends a power-on before its first frame and a reset after its last one, one frame for each
request in between that fits in one, and nothing more. Letting go of it closes it. To close it never fails,
and after that no call opens a connection again. -/
theorem session_sends_frames_in_order {w : W} (hledger : Ledger sent) (hs : s.Unused w)
    (calls : List SessionCall) :
    sent (run calls s w).2.2 ++ (run calls s w).2.1.written =
      sent w ++ traffic calls (calls.any (·.ends)) ∧
    sent (CardChannel.release (run calls s w).2.1 (run calls s w).2.2) = sent w ++ traffic calls true ∧
    ∀ before call after, calls = before ++ call :: after →
      ∃ outcome, (run calls s w).1[before.length]? = some outcome ∧ (call.ends → outcome = .ok .done) ∧
        (call.opens → before.any (·.ends) → outcome = .error .closed) := by
  obtain ⟨hsofar, hall⟩ := run_unused hledger hs calls
  refine ⟨hsofar, hall, ?_⟩
  rintro before call after rfl
  have hlength := length_run before s w
  refine ⟨(call.perform (run before s w).2.1 (run before s w).2.2).1, ?_, ?_, ?_⟩
  · rw [run_append, run_cons, List.getElem?_append_right (Nat.le_of_eq hlength), hlength]
    simp
  · intro hends
    rw [perform_ends hends]
  · intro hopens hended
    exact (perform_closed (run_ended hended s w) call _).2 hopens

def sentBy (w : LocalHost Empty) : Bytes := w.network.ended.flatMap (·.2)

theorem sentBy_ledger : Ledger sentBy := by
  constructor
  · intro host port w
    rfl
  · intro address deadline w
    simp only [sentBy, Network.dial, LocalNetwork.dial]
    split
    · split <;> rfl
    · rfl
  · intro port w
    simp only [sentBy, Network.bind, LocalNetwork.bind]
    split
    · rfl
    · split
      · rfl
      · split <;> rfl
  · intro port deadline w
    simp only [sentBy, Network.accept, LocalNetwork.accept]
    split <;> rfl
  · intro port w
    rfl
  · intro id codec w
    simp [sentBy, Network.hangUp, LocalNetwork.hangUp]

/-- A peer that answers the first request with half a response and the second with an ATR. -/
def callingPeer : LocalHost Empty where
  network.routed := true
  network.calling := [(1024, 7, { replies := [[], [0, 1, 0x90], [0, 2, 0x3B, 0x00]] })]

def listeningSession : Session where
  config := .listening 1024

theorem listeningSession_unused : listeningSession.Unused callingPeer := by
  have hagain : ∀ n, Session.bindTimes n (listeningSession.bind callingPeer).2.1
      (listeningSession.bind callingPeer).2.2 =
        ((listeningSession.bind callingPeer).2.1, (listeningSession.bind callingPeer).2.2) := by
    intro n
    induction n with
    | zero => rfl
    | succ n ih => exact ih
  have htakes : Sink.TakesAll {} := ⟨by simp, by simp, rfl, rfl⟩
  refine ⟨rfl, rfl, ?_⟩
  intro n
  cases n with
  | zero => exact ⟨_, _, _, rfl, htakes, rfl⟩
  | succ n =>
    rw [Session.bindTimes, hagain]
    exact ⟨_, _, _, rfl, htakes, rfl⟩

def sampleCalls : List SessionCall :=
  [.request .protocol, .bind, .request (.transmit ⟨0, 0xA4, 4, 0, none, none⟩), .request .atr,
    .request (.disconnect true), .request .close, .connect]

theorem session_sends_frames_in_order_sample :
    (let (outcomes, s, w) := run sampleCalls listeningSession callingPeer
    sentBy (CardChannel.release s w) = [0, 1, 1] ++ [0, 4, 0, 0xA4, 4, 0] ++ [0, 1, 4] ++ [0, 1, 2] ∧
      outcomes[4]? = some (.ok .done) ∧ outcomes[6]? = some (.error .closed)) := by
  obtain ⟨-, hall, houtcomes⟩ :=
    session_sends_frames_in_order sentBy_ledger listeningSession_unused sampleCalls
  obtain ⟨outcome, hfour, hdone, -⟩ := houtcomes (sampleCalls.take 4) _ _ rfl
  obtain ⟨outcome', hsix, -, hclosed⟩ := houtcomes (sampleCalls.take 6) _ _ rfl
  refine ⟨hall, ?_, ?_⟩
  · rw [← hdone rfl]
    exact hfour
  · rw [← hclosed rfl rfl]
    exact hsix

end SessionCall
end VirtualCard
end CardLink
