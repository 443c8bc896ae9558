import CardLink.Proofs.Connection.AppletCalls
import CardLink.Proofs.Normalization.Received
import CardLink.Scripted.Applet

/-!
# Closed channels

Closing is for good. No call opens a session or an applet host again, and what needs the card is refused from
then on, also behind a decorator. The protocol and exclusive use do not need it and are answered as before,
and a host that was closed without a reset still deselects its applet when one is asked for later.
-/

namespace CardLink

open VirtualCard

namespace ChannelRequest

def resets : ChannelRequest → Bool
  | .disconnect reset | .card (.disconnect reset) => reset
  | _ => false

/-- The calls that are answered without a look at whether the channel is closed. -/
def unguarded : ChannelRequest → Bool
  | .protocol | .beginExclusive | .endExclusive => true
  | .card .protocol | .card .beginExclusive | .card .endExclusive => true
  | _ => false

/-- What a closed channel of that protocol answers. -/
def whenClosed (protocol : Option Protocol) : ChannelRequest → Except ChannelError Answer
  | .transmit _ | .exchange _ | .atr => .error .closed
  | .card (.basicTransmit _) | .card (.logicalTransmit _) | .card .atr => .error .closed
  | .protocol | .card .protocol => .ok (.protocol protocol)
  | .number | .card .basicNumber => .ok (.number 0)
  | .isWrapped => .ok (.flag false)
  | _ => .ok .done

/-- What any closed channel owes its caller. Nothing is owed where a call only describes the channel. -/
def owed : ChannelRequest → Option (Except ChannelError Answer)
  | .number | .isWrapped | .card .basicNumber => none
  | r => some (if r.ends then .ok .done else .error .closed)

theorem whenClosed_owed {r : ChannelRequest} {outcome : Except ChannelError Answer}
    (h : r.owed = some outcome) (protocol : Option Protocol) :
    r.whenClosed protocol = outcome ↔ r.unguarded = false := by
  cases r with
  | number | isWrapped => cases h
  | card r =>
    cases r with
    | basicNumber => cases h
    | _ =>
      cases h
      simp [whenClosed, unguarded, ends]
  | _ =>
    cases h
    simp [whenClosed, unguarded, ends]

section

variable {W κ : Type} [ChannelTraits κ] [CardChannel W κ]

def run : List ChannelRequest → κ → W → List (Except ChannelError Answer) × κ × W
  | [], k, w => ([], k, w)
  | r :: rs, k, w =>
    let (outcome, k, w) := r.perform k w
    let (outcomes, k, w) := run rs k w
    (outcome :: outcomes, k, w)

/-- All that is owed is given, and the world is left alone. -/
def Keeps (k : κ) (w : W) : Prop :=
  ∀ (r : ChannelRequest) outcome, r.owed = some outcome →
    (r.perform k w).1 = outcome ∧ (r.perform k w).2.2 = w

end
end ChannelRequest

/-- A kind of channel that closes for good: the calls of its own type, among them those that any channel
has, and what is left of it when it is closed. -/
structure Closing (W κ Call : Type) [ChannelTraits κ] [CardChannel W κ] where
  closed : κ → Bool
  protocol : Option Protocol
  /-- What a reset does to a closed channel. -/
  settle : κ → W → κ × W
  perform : Call → κ → W → κ × W
  ends : Call → Bool
  perform_closed : ∀ call k w, closed (perform call k w).1 = (closed k || ends call)
  request_closed : ∀ (r : ChannelRequest) (k : κ) (w : W), closed (r.perform k w).2.1 = (closed k || r.ends)
  request_of_closed : ∀ (r : ChannelRequest) (k : κ) (w : W), closed k = true →
    r.perform k w = (r.whenClosed protocol, if r.resets then settle k w else (k, w))
  settle_again : ∀ k w, settle (settle k w).1 (settle k w).2 = settle k w

/-- A call on a decorated channel: one on the decorator, or one of the channel's own behind its back. -/
inductive DecoratedCall (Call : Type) where
  | decorator (request : NormalizedRequest)
  | inner (call : Call)

def NormalizedRequest.ends : NormalizedRequest → Bool
  | .channel r | .inner r => r.ends
  | _ => false

section

variable {W κ : Type} [Host W]

/-- What becomes of a command in front of a closed channel. One that does not fit is refused for that. -/
def Normalized.refuse {α : Type} (command : Command) (n : Normalized κ) (w : W) : Outcome (Normalized κ) W α :=
  match (n.normalize command).checkLengths with
  | .error e => (.error (.command e), n, w)
  | .ok () =>
    (.error .closed, { n with lastCommand := some (n.normalize command), lastDuration := 0 },
      logIf n.options.debug (.failure .closed 0) (logIf n.options.debug (.request (n.normalize command)) w))

theorem Normalized.refuse_map {α β : Type} (f : α → β) (command : Command) (n : Normalized κ) (w : W) :
    (n.refuse command w : Outcome (Normalized κ) W α).map f = n.refuse command w := by
  unfold refuse
  split <;> rfl

end

theorem ChannelRequest.ends_of_given {r : ChannelRequest} {command : Command}
    (h : (NormalizedRequest.channel r).given = some command) : r.ends = false := by
  cases r with
  | close | disconnect => cases h
  | card r =>
    cases r with
    | disconnect => cases h
    | _ => rfl
  | _ => rfl

namespace Closing

variable {W κ Call : Type} [ChannelTraits κ] [CardChannel W κ] {c : Closing W κ Call}

def run (c : Closing W κ Call) : List Call → κ → W → κ × W
  | [], k, w => (k, w)
  | call :: calls, k, w => c.run calls (c.perform call k w).1 (c.perform call k w).2

theorem run_closed (c : Closing W κ Call) (calls : List Call) (k : κ) (w : W) :
    c.closed (c.run calls k w).1 = (c.closed k || calls.any c.ends) := by
  induction calls generalizing k w with
  | nil => exact (Bool.or_false _).symm
  | cons call calls ih => rw [run, ih, c.perform_closed, List.any_cons, Bool.or_assoc]

/-- Once a channel is closed, all calls together do no more than one reset. -/
theorem requests_of_closed {k : κ} (h : c.closed k = true) (rs : List ChannelRequest) (w : W) :
    ChannelRequest.run rs k w =
      (rs.map (·.whenClosed c.protocol), if rs.any (·.resets) then c.settle k w else (k, w)) := by
  induction rs generalizing k w with
  | nil => rfl
  | cons r rs ih =>
    have hperform := c.request_of_closed r k w h
    have hclosed : c.closed (r.perform k w).2.1 = true := by rw [c.request_closed, h, Bool.true_or]
    rw [hperform] at hclosed
    simp only [ChannelRequest.run, hperform, ih hclosed, List.map_cons, List.any_cons]
    by_cases hreset : r.resets = true
    · simp only [hreset, if_true, Bool.true_or, c.settle_again, ite_self]
    · simp only [Bool.eq_false_iff.mpr hreset, Bool.false_or, Bool.false_eq_true, if_false]

theorem transmit_of_closed {k : κ} (h : c.closed k = true) (command : Command) (w : W) :
    CardChannel.transmit command k w = (.error .closed, k, w) := by
  have hperform : (CardChannel.transmit command k w).map Answer.response = (.error .closed, k, w) :=
    c.request_of_closed (.transmit command) k w h
  rcases htransmit : CardChannel.transmit command k w with ⟨result, k', w'⟩
  rw [htransmit] at hperform
  cases result with
  | error e =>
    cases hperform
    rfl
  | ok response => cases hperform

theorem transmit_closed (c : Closing W κ Call) (command : Command) (k : κ) (w : W) :
    c.closed (CardChannel.transmit command k w).2.1 = c.closed k :=
  (c.request_closed (.transmit command) k w).trans (Bool.or_false _)

variable [Host W]

/-! ## Behind a decorator -/

def performThrough (c : Closing W κ Call) : DecoratedCall Call → Normalized κ → W → Normalized κ × W
  | .decorator request, n, w => (request.perform n w).2
  | .inner call, n, w => ({ n with inner := (c.perform call n.inner w).1 }, (c.perform call n.inner w).2)

def endsThrough (c : Closing W κ Call) : DecoratedCall Call → Bool
  | .decorator request => request.ends
  | .inner call => c.ends call

def runThrough (c : Closing W κ Call) : List (DecoratedCall Call) → Normalized κ → W → Normalized κ × W
  | [], n, w => (n, w)
  | call :: calls, n, w => c.runThrough calls (c.performThrough call n w).1 (c.performThrough call n w).2

theorem decoratedTransmit_closed (c : Closing W κ Call) (command : Command) (n : Normalized κ) (w : W) :
    c.closed (n.transmit command w).2.1.inner = c.closed n.inner := by
  unfold Normalized.transmit
  split
  · rfl
  · exact c.transmit_closed _ _ _

theorem decoratedBuffer_closed (c : Closing W κ Call) (bytes buffer : Bytes) (n : Normalized κ) (w : W) :
    c.closed (n.transmitBuffer bytes buffer w).1.2.1.inner = c.closed n.inner := by
  unfold Normalized.transmitBuffer
  split
  · rfl
  · next command _ =>
    have hclosed := c.decoratedTransmit_closed command n w
    split
    · next htransmit =>
      rw [htransmit] at hclosed
      exact hclosed
    · next htransmit =>
      rw [htransmit] at hclosed
      simp only
      split <;> exact hclosed

theorem decorator_closed (c : Closing W κ Call) (request : NormalizedRequest) (n : Normalized κ) (w : W) :
    c.closed (request.perform n w).2.1.inner = (c.closed n.inner || request.ends) := by
  cases request with
  | channel r =>
    cases hgiven : (NormalizedRequest.channel r).given with
    | some command =>
      have hgoes : r.ends = false := r.ends_of_given hgiven
      rw [Normalized.perform_given hgiven, NormalizedRequest.ends, hgoes, Bool.or_false]
      exact c.decoratedTransmit_closed command n w
    | none =>
      by_cases hflag : r = .isWrapped
      · subst hflag
        exact (Bool.or_false _).symm
      · rw [Normalized.perform_direct hgiven hflag]
        exact c.request_closed r n.inner w
  | inner r => exact c.request_closed r n.inner w
  | transmitBuffer bytes buffer =>
    exact (c.decoratedBuffer_closed bytes buffer n w).trans (Bool.or_false _).symm
  | _ => exact (Bool.or_false _).symm

theorem performThrough_closed (c : Closing W κ Call) (call : DecoratedCall Call) (n : Normalized κ) (w : W) :
    c.closed (c.performThrough call n w).1.inner = (c.closed n.inner || c.endsThrough call) := by
  cases call with
  | decorator request => exact c.decorator_closed request n w
  | inner call => exact c.perform_closed call n.inner w

theorem runThrough_closed (c : Closing W κ Call) (calls : List (DecoratedCall Call)) (n : Normalized κ) (w : W) :
    c.closed (c.runThrough calls n w).1.inner = (c.closed n.inner || calls.any c.endsThrough) := by
  induction calls generalizing n w with
  | nil => exact (Bool.or_false _).symm
  | cons call calls ih => rw [runThrough, ih, c.performThrough_closed, List.any_cons, Bool.or_assoc]

theorem decoratedTransmit_of_closed {n : Normalized κ} (h : c.closed n.inner = true) (command : Command) (w : W) :
    n.transmit command w = n.refuse command w := by
  unfold Normalized.transmit Normalized.refuse
  cases (n.normalize command).checkLengths with
  | error e => rfl
  | ok _ => simp only [Normalized.forward, transmit_of_closed h, Nat.sub_self]

/-- How a decorator answers once the channel inside is closed. -/
structure RefusesThrough (c : Closing W κ Call) (n : Normalized κ) : Prop where
  command : ∀ (request : NormalizedRequest) command (w : W), request.given = some command →
    request.perform n w = n.refuse command w
  unread : ∀ bytes buffer e (w : W), Command.parse bytes = .error e →
    (NormalizedRequest.transmitBuffer bytes buffer).perform n w = (.error (.command e), n, w)
  direct : ∀ (r : ChannelRequest) (w : W), (NormalizedRequest.inner r).perform n w =
    ((r.whenClosed c.protocol).map .channel,
      if r.resets then ({ n with inner := (c.settle n.inner w).1 }, (c.settle n.inner w).2) else (n, w))
  through : ∀ (r : ChannelRequest) (w : W), (NormalizedRequest.channel r).given = none → r ≠ .isWrapped →
    (NormalizedRequest.channel r).perform n w = (NormalizedRequest.inner r).perform n w

theorem refusesThrough_of_closed {n : Normalized κ} (h : c.closed n.inner = true) : c.RefusesThrough n := by
  constructor
  · intro request command w hgiven
    cases request with
    | channel r =>
      rw [Normalized.perform_given hgiven, decoratedTransmit_of_closed h, Normalized.refuse_map,
        Normalized.refuse_map]
    | transmitBuffer bytes buffer =>
      have hparse : Command.parse bytes = .ok command := by
        simp only [NormalizedRequest.given] at hgiven
        cases hparse : Command.parse bytes with
        | error e =>
          rw [hparse] at hgiven
          cases hgiven
        | ok parsed =>
          rw [hparse] at hgiven
          cases hgiven
          rfl
      simp only [NormalizedRequest.perform, Normalized.transmitBuffer, hparse, decoratedTransmit_of_closed h,
        Normalized.refuse]
      cases (n.normalize command).checkLengths <;> rfl
    | _ => cases hgiven
  · intro bytes buffer e w hparse
    simp only [NormalizedRequest.perform, Normalized.transmitBuffer, hparse]
    rfl
  · intro r w
    simp only [NormalizedRequest.perform, c.request_of_closed r n.inner w h]
    by_cases hreset : r.resets = true
    · simp only [hreset, if_true]
      rfl
    · simp only [hreset]
      rfl
  · intro r w hgiven hflag
    exact Normalized.perform_direct hgiven hflag n w

/-! ## For good -/

/-- Whatever was done with a channel before and after it was closed, also behind a decorator: it answers as a
closed channel, and all later calls together do no more than one reset. -/
structure StaysClosed (c : Closing W κ Call) : Prop where
  bare : ∀ (calls : List Call) (k : κ) (w : W), calls.any c.ends = true → ∀ rs : List ChannelRequest,
    ChannelRequest.run rs (c.run calls k w).1 (c.run calls k w).2 =
      (rs.map (·.whenClosed c.protocol),
        if rs.any (·.resets) then c.settle (c.run calls k w).1 (c.run calls k w).2 else c.run calls k w)
  decorated : ∀ (calls : List (DecoratedCall Call)) (n : Normalized κ) (w : W), calls.any c.endsThrough = true →
    c.RefusesThrough (c.runThrough calls n w).1

theorem staysClosed (c : Closing W κ Call) : c.StaysClosed := by
  constructor
  · intro calls k w hended rs
    have hclosed : c.closed (c.run calls k w).1 = true := by rw [run_closed, hended, Bool.or_true]
    exact requests_of_closed hclosed rs _
  · intro calls n w hended
    have hclosed : c.closed (c.runThrough calls n w).1.inner = true := by
      rw [runThrough_closed, hended, Bool.or_true]
    exact refusesThrough_of_closed hclosed

end Closing

/-! ## Sessions and applet hosts -/

section

variable {W α : Type}

namespace VirtualCard

variable [Network W]

theorem Session.open_closed (s : Session) (w : W) : (s.open? w).2.1.closed = s.closed := by
  unfold Session.open?
  split
  · rfl
  · split
    · rfl
    · unfold Session.establish
      split
      · rfl
      · split <;> rfl

theorem CardCall.perform_closed (call : CardCall) (s : Session) (w : W) :
    (call.perform s w).2.1.closed = s.closed := by
  have hclosed := s.open_closed w
  rcases hopen : s.open? w with ⟨e | link, s', w'⟩
  · rw [hopen] at hclosed
    rw [CardCall.perform_of_refused hopen]
    exact hclosed
  · rw [hopen] at hclosed
    rw [CardCall.perform_of_open hopen]
    exact hclosed

namespace SessionCall

theorem perform_ended (call : SessionCall) (s : Session) (w : W) :
    (call.perform s w).2.1.closed = (s.closed || call.ends) := by
  by_cases hends : call.ends = true
  · rw [perform_ends hends, Session.shut_closed, hends, Bool.or_true]
  · have hgoes : call.ends = false := Bool.eq_false_iff.mpr hends
    rw [hgoes, Bool.or_false]
    cases hasks : call.asks with
    | some card =>
      rw [perform_asks hasks]
      exact card.perform_closed s w
    | none =>
      cases call with
      | bind =>
        simp only [perform, Outcome.map, Session.bind]
        split
        · rfl
        · split
          · split <;> rfl
          · rfl
      | connect => exact s.open_closed w
      | request r => rw [perform_quiet hasks hgoes]

theorem request_of_closed (r : ChannelRequest) (s : Session) (w : W) (h : s.closed = true) :
    r.perform s w = (r.whenClosed none, if r.resets then (s, w) else (s, w)) := by
  obtain ⟨hkept, hrefused⟩ := perform_closed h (.request r) w
  rw [ite_self]
  refine Prod.ext ?_ hkept
  have hopens : (request r).opens = r.asks.isSome := rfl
  rw [hopens] at hrefused
  cases r with
  | transmit | exchange | atr => exact hrefused rfl
  | card r =>
    cases r with
    | basicTransmit | logicalTransmit | atr => exact hrefused rfl
    | _ => rfl
  | _ => rfl

end SessionCall
end VirtualCard

theorem AppletHost.request_of_closed [Applet W α] (r : ChannelRequest) (h : AppletHost α) (w : W)
    (hclosed : h.closed = true) :
    r.perform h w = (r.whenClosed (some .t1), if r.resets then h.deselect w else (h, w)) := by
  have htransmit : ∀ c, CardChannel.transmit c h w = (.error .closed, h, w) := by
    intro c
    simp only [CardChannel.transmit, hclosed, if_true]
  have hatr : CardChannel.atr h w = (.error .closed, h, w) := by
    simp only [CardChannel.atr, hclosed, if_true]
  have hsame : ∀ g : AppletHost α, g.closed = true → { g with closed := true } = g := by
    rintro ⟨_, _, _, _, _⟩ rfl
    rfl
  have hdisconnect : ∀ reset, h.disconnect reset w = if reset then h.deselect w else (h, w) := by
    intro reset
    cases reset with
    | false => simp [disconnect, hsame h hclosed]
    | true => simp [disconnect, hsame _ ((deselect_closed h w).trans hclosed)]
  cases r with
  | transmit c | exchange c =>
    simp only [ChannelRequest.perform, htransmit]
    rfl
  | atr =>
    simp only [ChannelRequest.perform, hatr]
    rfl
  | disconnect reset =>
    simp only [ChannelRequest.perform, CardChannel.disconnect, hdisconnect]
    rfl
  | close =>
    simp only [ChannelRequest.perform, CardChannel.close, hdisconnect]
    rfl
  | card r =>
    cases r with
    | basicTransmit c | logicalTransmit c =>
      simp only [ChannelRequest.perform, CardRequest.perform, htransmit]
      rfl
    | atr =>
      simp only [ChannelRequest.perform, CardRequest.perform, hatr]
      rfl
    | disconnect reset =>
      simp only [ChannelRequest.perform, CardRequest.perform, CardChannel.disconnect, hdisconnect]
      rfl
    | _ => rfl
  | _ => rfl

/-- Nothing is left of a closed session. -/
def VirtualCard.Session.closing [Network W] : Closing W Session SessionCall where
  closed := Session.closed
  protocol := none
  settle s w := (s, w)
  perform call s w := (call.perform s w).2
  ends := SessionCall.ends
  perform_closed := SessionCall.perform_ended
  request_closed r s w := SessionCall.perform_ended (.request r) s w
  request_of_closed := SessionCall.request_of_closed
  settle_again _ _ := rfl

/-- A closed host may have an applet that was not deselected yet. -/
def AppletHost.closing [Applet W α] : Closing W (AppletHost α) (HostCall α) where
  closed := AppletHost.closed
  protocol := some .t1
  settle := AppletHost.deselect
  perform call h w := (call.perform h w).2
  ends := HostCall.ends
  perform_closed := HostCall.perform_closed
  request_closed := HostCall.request_closed
  request_of_closed := AppletHost.request_of_closed
  settle_again h w := AppletHost.deselect_none (AppletHost.deselect_selected h w) _

/-- Both kinds of channel stay closed, also behind a decorator, and they give what a closed channel owes for
every call but those on the protocol and on exclusive use. -/
theorem closed_channels_refuse [Network W] [Applet W α] [Host W] :
    (Session.closing : Closing W _ _).StaysClosed ∧ (AppletHost.closing : Closing W (AppletHost α) _).StaysClosed ∧
    ∀ (r : ChannelRequest) outcome protocol, r.owed = some outcome →
      (r.whenClosed protocol = outcome ↔ r.unguarded = false) :=
  ⟨Session.closing.staysClosed, AppletHost.closing.staysClosed,
    fun _ _ protocol howed => ChannelRequest.whenClosed_owed howed protocol⟩

end

namespace AppletHost

open Scripted

def selectedThenClosed : List (HostCall Scripted.Applet) :=
  [.installApplet [0xF0, 0x01] (.counting { name := "counter" }) [], .select [0xF0, 0x01], .request .close]

/-- A closed host is asked for everything, and twice for a reset. -/
def requestsAfterwards : List ChannelRequest :=
  [.transmit ⟨0x80, 0x01, 0x00, 0x00, none, none⟩, .card .atr, .protocol, .disconnect true, .card (.disconnect true),
    .close]

def forgottenSession : Normalized Session where
  inner := { config := .listening 1024 }
  options := { debug := true }

theorem closed_channels_refuse_selected :
    (let (host, w) := closing.run selectedThenClosed {} ({} : World)
    let (outcomes, _, w) := ChannelRequest.run requestsAfterwards host w
    outcomes = [.error .closed, .error .closed, .ok (.protocol (some .t1)), .ok .done, .ok .done, .ok .done] ∧
      w.events.toList = [.applet "counter" (.install []), .applet "counter" .select, .applet "counter" .deselect]) ∧
    (let (n, w) := Session.closing.runThrough [.inner .bind, .decorator (.channel (.card (.disconnect false)))]
      forgottenSession ({} : World)
    ((NormalizedRequest.transmitBuffer [0x00, 0xB0, 0x00, 0x00] []).perform n w).2.2.log =
      #[.request ⟨0x00, 0xB0, 0x00, 0x00, some [], none⟩, .failure .closed 0]) := by
  obtain ⟨hsession, hhost, -⟩ := @closed_channels_refuse World Scripted.Applet _ _ _
  constructor
  · have hrun := hhost.bare selectedThenClosed {} {} rfl requestsAfterwards
    simp only [hrun]
    exact ⟨rfl, rfl⟩
  · have hrefuses := hsession.decorated [.inner .bind, .decorator (.channel (.card (.disconnect false)))]
      forgottenSession {} rfl
    simp only [hrefuses.command (.transmitBuffer [0x00, 0xB0, 0x00, 0x00] [])
      ⟨0x00, 0xB0, 0x00, 0x00, none, none⟩ _ rfl]
    rfl

/-- A host that was closed still tells its protocol. -/
theorem closed_host_tells_protocol :
    ¬ ∀ calls : List (HostCall Scripted.Applet), calls.any HostCall.ends = true →
      ChannelRequest.Keeps (closing.run calls {} ({} : World)).1 (closing.run calls {} ({} : World)).2 := by
  intro h
  have hprotocol := (h selectedThenClosed rfl .protocol _ rfl).1
  cases hprotocol

end AppletHost
end CardLink
