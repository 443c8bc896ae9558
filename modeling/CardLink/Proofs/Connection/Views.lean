import CardLink.Proofs.Connection.Steps

/-!
# Views of the world

A view shows some part of the world. If it does not show the network then nothing that a session does can be seen in
it. If it shows neither the channels of collaborators nor the log then a manager can hold, use and let go of channels
unseen.
-/

namespace CardLink

open VirtualCard (Address Config Network Session)

variable {W V κ κ' ς : Type}

/-! ## Sessions -/

/-- The network cannot be seen in the view. -/
structure HidesNetwork [Network W] (view : W → V) : Prop where
  resolve : ∀ host port w, view (Network.resolve host port w).2 = view w
  dial : ∀ address deadline w, view (Network.dial address deadline w).2 = view w
  bind : ∀ port w, view (Network.bind port w).2 = view w
  accept : ∀ port deadline w, view (Network.accept port deadline w).2 = view w
  hangUp : ∀ id codec w, view (Network.hangUp id codec w) = view w
  unbind : ∀ port w, view (Network.unbind port w) = view w

namespace HidesNetwork

variable [Network W] {view : W → V}

theorem dialAny (h : HidesNetwork view) (host : String) (port : Nat) (deadline : Option Nat) (cancelled : Bool)
    (last : Option IoError) (addresses : List Address) (w : W) :
    view (VirtualCard.dialAny host port deadline cancelled last addresses w).2 = view w := by
  induction addresses generalizing last w with
  | nil => rfl
  | cons address rest ih =>
    have hdial := h.dial address deadline w
    cases cancelled with
    | true => rfl
    | false =>
      simp only [VirtualCard.dialAny, Bool.false_eq_true, if_false]
      rcases heq : Network.dial address deadline w with ⟨e | connection, w'⟩
      · rw [heq] at hdial
        exact (ih (some e) w').trans hdial
      · rw [heq] at hdial
        exact hdial

theorem listen (h : HidesNetwork view) (port : Nat) (bound : Option Nat) (w : W) :
    view (VirtualCard.listen port bound w).2 = view w := by
  cases bound with
  | some port => rfl
  | none =>
    have hbind := h.bind port w
    simp only [VirtualCard.listen]
    rcases heq : Network.bind port w with ⟨e | port', w'⟩ <;> rw [heq] at hbind <;> exact hbind

theorem connect (h : HidesNetwork view) (config : Config) (bound : Option Nat) (cancelled : Bool) (w : W) :
    view (VirtualCard.connect config bound cancelled w).2.2 = view w := by
  unfold VirtualCard.connect
  cases config.host with
  | some host =>
    have hresolve := h.resolve host config.port w
    simp only [VirtualCard.dial]
    rcases heq : Network.resolve host config.port w with ⟨reason | addresses, w'⟩
    · rw [heq] at hresolve
      exact hresolve
    · rw [heq] at hresolve
      exact (h.dialAny host config.port _ cancelled none addresses w').trans hresolve
  | none =>
    have hlisten := h.listen config.port bound w
    simp only [VirtualCard.accept]
    rcases heq : VirtualCard.listen config.port bound w with ⟨e | port, w'⟩
    · rw [heq] at hlisten
      exact hlisten
    · rw [heq] at hlisten
      cases cancelled with
      | true => exact hlisten
      | false => exact (h.accept port config.connectTimeout w').trans hlisten

theorem establish (h : HidesNetwork view) (config : Config) (bound : Option Nat) (cancelled : Bool) (w : W) :
    view (VirtualCard.establish config bound cancelled w).2.2 = view w := by
  have hconnect := h.connect config bound cancelled w
  unfold VirtualCard.establish
  rcases heq : VirtualCard.connect config bound cancelled w with ⟨e | connection, bound', w'⟩
  · rw [heq] at hconnect
    exact hconnect
  · rw [heq] at hconnect
    simp only
    split
    · exact (h.hangUp _ _ w').trans hconnect
    · exact hconnect

theorem open? (h : HidesNetwork view) (s : Session) (w : W) : view (s.open? w).2.2 = view w := by
  have hestablish := h.establish s.config s.bound s.cancelled w
  unfold Session.open?
  split
  · rfl
  · split
    · rfl
    · unfold Session.establish
      rcases heq : VirtualCard.establish s.config s.bound s.cancelled w with ⟨e | link, bound, w'⟩
      · rw [heq] at hestablish
        exact hestablish
      · rw [heq] at hestablish
        simp only
        split
        · exact (h.hangUp _ _ w').trans hestablish
        · exact hestablish

theorem shut (h : HidesNetwork view) (s : Session) (w : W) : view (s.shut w).2 = view w := by
  unfold Session.shut
  split
  · rfl
  · -- the connection ends before the port is given back
    rcases s.link with _ | link <;> rcases s.bound with _ | port
    · rfl
    · exact h.unbind port w
    · exact h.hangUp _ _ w
    · exact (h.unbind port _).trans (h.hangUp _ _ w)

theorem transmit (h : HidesNetwork view) (command : Command) (s : Session) (w : W) :
    view (s.transmit command w).2.2 = view w := by
  have hopen := h.open? s w
  unfold Session.transmit
  rcases heq : s.open? w with ⟨e | link, s', w'⟩
  · rw [heq] at hopen
    exact hopen
  · rw [heq] at hopen
    simp only
    split <;> exact hopen

theorem atr (h : HidesNetwork view) (s : Session) (w : W) : view (s.atr w).2.2 = view w := by
  have hopen := h.open? s w
  unfold Session.atr
  rcases heq : s.open? w with ⟨e | link, s', w'⟩
  · rw [heq] at hopen
    exact hopen
  · rw [heq] at hopen
    simp only
    split <;> exact hopen

theorem request (h : HidesNetwork view) (request : ChannelRequest) (s : Session) (w : W) :
    view (request.perform s w).2.2 = view w := by
  cases request with
  | transmit command | exchange command => exact h.transmit command s w
  | atr => exact h.atr s w
  | disconnect reset => exact h.shut s w
  | close => exact h.shut s w
  | card request =>
    cases request with
    | basicTransmit command | logicalTransmit command => exact h.transmit command s w
    | atr => exact h.atr s w
    | disconnect reset => exact h.shut s w
    | _ => rfl
  | _ => rfl

end HidesNetwork

/-! ## Channels -/

theorem Normalized.view_logIf [Host W] {view : W → V} (hlog : ∀ event w, view (Host.log event w) = view w)
    (debug : Bool) (event : LogEvent) (w : W) : view (logIf debug event w) = view w := by
  cases debug with
  | false => rfl
  | true => exact hlog event w

/-- The channels of that type cannot be seen in the view. -/
structure HidesChannels (κ : Type) [ChannelTraits κ] [CardChannel W κ] (view : W → V) : Prop where
  request : ∀ (r : ChannelRequest) (k : κ) w, view (r.perform k w).2.2 = view w
  release : ∀ (k : κ) w, view (CardChannel.release k w) = view w

namespace HidesChannels

variable [ChannelTraits κ] [CardChannel W κ] {view : W → V}

theorem session [Network W] (h : HidesNetwork view) : HidesChannels Session view := ⟨h.request, h.shut⟩

theorem sum [ChannelTraits κ'] [CardChannel W κ'] (h : HidesChannels κ view) (h' : HidesChannels κ' view) :
    HidesChannels (κ ⊕ κ') view := by
  constructor
  · rintro r (k | k) w
    · rw [ChannelRequest.perform_inl]
      exact h.request r k w
    · rw [ChannelRequest.perform_inr]
      exact h'.request r k w
  · rintro (k | k) w
    · exact h.release k w
    · exact h'.release k w

theorem backend [Network W] (hnetwork : HidesNetwork view) (h : HidesChannels κ view) :
    HidesChannels (Backend κ) view :=
  (session hnetwork).sum h

theorem normalized_transmit [Host W] (h : HidesChannels κ view) (hlog : ∀ event w, view (Host.log event w) = view w)
    (n : Normalized κ) (c : Command) (w : W) : view (n.transmit c w).2.2 = view w := by
  unfold Normalized.transmit
  cases (n.normalize c).checkLengths with
  | error e => rfl
  | ok _ =>
    have hlogged := Normalized.view_logIf hlog n.options.debug (.request (n.normalize c)) w
    have hcalled := h.request (.transmit (n.normalize c)) n.inner
      (Normalized.logIf n.options.debug (.request (n.normalize c)) w)
    exact (Normalized.view_logIf hlog _ _ _).trans (hcalled.trans hlogged)

end HidesChannels

/-! ## Managers -/

/-- Neither the network nor channels nor the log can be seen in the view. -/
structure Hides (κ : Type) [ChannelTraits κ] [CardChannel W κ] [Network W] [Host W] (view : W → V) : Prop where
  network : HidesNetwork view
  channels : HidesChannels κ view
  log : ∀ event w, view (Host.log event w) = view w

namespace Hides

variable [ChannelTraits κ] [CardChannel W κ] [Network W] [Host W] {view : W → V}

theorem backend (h : Hides κ view) : HidesChannels (Backend κ) view := .backend h.network h.channels

theorem releaseHeld (h : Hides κ view) (m : Manager W κ ς) (w : W) : view (m.releaseHeld w) = view w := by
  unfold Manager.releaseHeld
  split
  · rfl
  · exact h.backend.release _ w

theorem send (h : Hides κ view) (c : Command) (m : Manager W κ ς) (w : W) : view (m.send c w).2.2 = view w := by
  cases hch : m.channel with
  | none => rw [Manager.send_none hch]
  | some n =>
    rw [Manager.send_some hch]
    exact h.backend.normalized_transmit h.log n c w

theorem selectIfConfigured (h : Hides κ view) (m : Manager W κ ς) (w : W) :
    view (m.selectIfConfigured w).2.2 = view w := by
  cases haid : m.aid with
  | none => rw [Manager.selectIfConfigured_none haid]
  | some aid =>
    have hsend := h.send (.selectAid aid) m w
    rw [Manager.selectIfConfigured_some haid]
    rcases heq : m.send (.selectAid aid) w with ⟨e | response, m', w'⟩ <;> rw [heq] at hsend <;> exact hsend

theorem disconnect (h : Hides κ view) (reset : Bool) (m : Manager W κ ς) (w : W) :
    view (m.disconnect reset w).2.2 = view w := by
  cases hch : m.channel with
  | none => simp only [Manager.disconnect, hch]
  | some n =>
    simp only [Manager.disconnect, hch]
    exact (h.backend.release _ _).trans (h.backend.request (.disconnect reset) n.inner w)

/-- Tearing down the session before cannot be seen. -/
theorem prepare (h : Hides κ view) (settings : Settings) (m : Manager W κ ς) (w : W) :
    view (m.prepare settings w).2 = view w := by
  cases hdisconnect : settings.disconnectPrevious && m.channel.isSome with
  | false => simp [Manager.prepare, hdisconnect]
  | true =>
    have hgone := h.disconnect true { m with aid := m.aid.or settings.aid } w
    simpa only [Manager.prepare, hdisconnect, if_true] using hgone

theorem adoptAndSelect (h : Hides κ view) (k : Backend κ) (doSelect : Bool) (m : Manager W κ ς) (w : W) :
    view (m.adoptAndSelect k doSelect w).2.2 = view w := by
  cases hk : ChannelTraits.isWrapped k with
  | true =>
    rw [Manager.adoptAndSelect_wrapped hk]
    exact h.backend.release k w
  | false =>
    rw [Manager.adoptAndSelect_unwrapped hk]
    cases doSelect with
    | false => exact h.releaseHeld m w
    | true => exact (h.selectIfConfigured (m.holding k) _).trans (h.releaseHeld m w)

end Hides
end CardLink
