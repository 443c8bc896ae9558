import CardLink.Connection.Manager

/-!
# The steps of a connection

One law for each step of a manager: what it answers, what is held afterwards and what the state becomes.
Exchanging and selecting fail or keep the state, whatever it was. Opening a card does not depend on whether
it will be selected.
-/

namespace CardLink

open VirtualCard (Network)

/-- The state after a step that may fail. -/
def ConnectionState.after {ε α : Type} (s : ConnectionState) : Except ε α → ConnectionState
  | .ok _ => s
  | .error _ => .failed

/-! ## Channels of either kind -/

namespace ChannelRequest

variable {W κ₁ κ₂ : Type} [ChannelTraits κ₁] [ChannelTraits κ₂] [CardChannel W κ₁] [CardChannel W κ₂]

theorem perform_inl (request : ChannelRequest) (k : κ₁) (w : W) :
    (request.perform (.inl k : κ₁ ⊕ κ₂) w).2 = (.inl (request.perform k w).2.1, (request.perform k w).2.2) := by
  cases request with
  | card request => cases request <;> rfl
  | _ => rfl

theorem perform_inr (request : ChannelRequest) (k : κ₂) (w : W) :
    (request.perform (.inr k : κ₁ ⊕ κ₂) w).2 = (.inr (request.perform k w).2.1, (request.perform k w).2.2) := by
  cases request with
  | card request => cases request <;> rfl
  | _ => rfl

end ChannelRequest

namespace Manager

variable {W κ ς : Type} [CardChannel W κ] [Network W] [Host W] {m : Manager W κ ς}

/-! ## Exchanges -/

theorem send_none (h : m.channel = none) (c : Command) (w : W) :
    m.send c w = (.error .notConnected, m, w) := by
  unfold send
  rw [h]

theorem send_some {n : Normalized (Backend κ)} (h : m.channel = some n) (c : Command) (w : W) :
    m.send c w =
      ((CardChannel.transmit c n w).1.mapError .card,
        { m with
          channel := some (CardChannel.transmit c n w).2.1
          state := m.state.after (CardChannel.transmit c n w).1 },
        (CardChannel.transmit c n w).2.2) := by
  rcases htr : CardChannel.transmit c n w with ⟨result, n', w'⟩
  simp only [send, h, htr]
  cases result <;> rfl

theorem after_mapError {ε ε' α : Type} (s : ConnectionState) (f : ε → ε') (result : Except ε α) :
    s.after (result.mapError f) = s.after result := by
  cases result <;> rfl

theorem send_held (c : Command) (m : Manager W κ ς) (w : W) :
    (m.send c w).2.1.channel.isSome = m.channel.isSome := by
  cases hch : m.channel with
  | none => rw [send_none hch, hch]
  | some n =>
    rw [send_some hch]
    rfl

theorem send_state (hheld : m.channel.isSome = true) (c : Command) (w : W) :
    (m.send c w).2.1.state = m.state.after (m.send c w).1 := by
  obtain ⟨n, hch⟩ := Option.isSome_iff_exists.mp hheld
  rw [send_some hch, after_mapError]

theorem selectApplet_none (h : m.aid = none) (w : W) :
    m.selectApplet w = (.error (.config .noAid), m, w) := by
  unfold selectApplet
  rw [h]

theorem selectApplet_some {aid : Bytes} (h : m.aid = some aid) (w : W) :
    m.selectApplet w = m.send (.selectAid aid) w := by
  unfold selectApplet
  rw [h]

theorem selectIfConfigured_none (h : m.aid = none) (w : W) :
    m.selectIfConfigured w = (.ok (), m, w) := by
  unfold selectIfConfigured
  rw [h]

theorem selectIfConfigured_some {aid : Bytes} (h : m.aid = some aid) (w : W) :
    m.selectIfConfigured w =
      match m.send (.selectAid aid) w with
      | (.error e, m, w) => (.error e, m, w)
      | (.ok response, m, w) => (.ok (), { m with selectResponse := some response }, w) := by
  rcases hsend : m.send (.selectAid aid) w with ⟨e | response, m', w'⟩
  · simp only [selectIfConfigured, selectApplet_some h, h, hsend]
  · simp only [selectIfConfigured, selectApplet_some h, h, hsend]

theorem selectIfConfigured_state (hheld : m.channel.isSome = true) (w : W) :
    (m.selectIfConfigured w).2.1.channel.isSome = true ∧
      (m.selectIfConfigured w).2.1.state = m.state.after (m.selectIfConfigured w).1 := by
  cases haid : m.aid with
  | none =>
    rw [selectIfConfigured_none haid]
    exact ⟨hheld, rfl⟩
  | some aid =>
    have hchannel := send_held (.selectAid aid) m w
    have hstate := send_state hheld (.selectAid aid) w
    rw [selectIfConfigured_some haid]
    rcases hsend : m.send (.selectAid aid) w with ⟨outcome, m', w'⟩
    rw [hsend] at hchannel hstate
    cases outcome with
    | error e => exact ⟨hchannel.trans hheld, hstate⟩
    | ok response => exact ⟨hchannel.trans hheld, hstate⟩

/-- Nothing is left of the channel, also if it could not be torn down. -/
theorem disconnect_after (reset : Bool) (m : Manager W κ ς) (w : W) :
    (m.disconnect reset w).2.1 = { m with state := .disconnected, channel := none } := by
  cases hch : m.channel with
  | none => simp only [disconnect, hch]
  | some n => simp only [disconnect, hch]

/-! ## Connecting -/

theorem prepare_eq (settings : Settings) (m : Manager W κ ς) (w : W) :
    (m.prepare settings w).1 =
      { m with
        aid := m.aid.or settings.aid
        state := .connecting
        selectResponse := none
        channel := if settings.disconnectPrevious then none else m.channel } := by
  cases hch : m.channel with
  | none => simp [prepare, hch]
  | some n => cases hdisconnect : settings.disconnectPrevious <;> simp [prepare, disconnect, hch, hdisconnect]

/-- Tearing the session before down has nothing to do with selecting. -/
theorem prepare_doSelect (settings : Settings) (doSelect : Bool) (m : Manager W κ ς) (w : W) :
    { m with doSelect }.prepare settings w =
      ({ (m.prepare settings w).1 with doSelect }, (m.prepare settings w).2) := by
  cases hch : m.channel with
  | none => simp [prepare, hch]
  | some n => cases hdisconnect : settings.disconnectPrevious <;> simp [prepare, disconnect, hch, hdisconnect]

variable [ChannelTraits κ]

/-- Holds the channel, which was not used yet. -/
def holding (k : Backend κ) (m : Manager W κ ς) : Manager W κ ς :=
  { m with channel := some { inner := k, options := m.options } }

theorem adopt_wrapped {k : Backend κ} (h : ChannelTraits.isWrapped k = true) (m : Manager W κ ς) (w : W) :
    m.adopt k w = (.error (.card .doubleWrap), m, CardChannel.release k w) := by
  unfold adopt Normalized.wrap
  rw [if_pos h]

theorem adopt_unwrapped {k : Backend κ} (h : ChannelTraits.isWrapped k = false) (m : Manager W κ ς)
    (w : W) : m.adopt k w = (.ok (), m.holding k, m.releaseHeld w) := by
  unfold adopt Normalized.wrap
  rw [if_neg (by simp [h])]
  rfl

theorem adoptAndSelect_wrapped {k : Backend κ} (h : ChannelTraits.isWrapped k = true) (doSelect : Bool)
    (m : Manager W κ ς) (w : W) :
    m.adoptAndSelect k doSelect w = (.error (.card .doubleWrap), m, CardChannel.release k w) := by
  unfold adoptAndSelect
  rw [adopt_wrapped h]

theorem adoptAndSelect_unwrapped {k : Backend κ} (h : ChannelTraits.isWrapped k = false)
    (doSelect : Bool) (m : Manager W κ ς) (w : W) :
    m.adoptAndSelect k doSelect w =
      if doSelect then ((m.holding k).selectIfConfigured (m.releaseHeld w)).map fun _ => true
      else (.ok true, m.holding k, m.releaseHeld w) := by
  unfold adoptAndSelect
  rw [adopt_unwrapped h]
  cases doSelect with
  | false => rfl
  | true =>
    simp only [if_true]
    rcases (m.holding k).selectIfConfigured (m.releaseHeld w) with ⟨outcome, m', w'⟩
    cases outcome <;> rfl

theorem adoptAndSelect_ok {k : Backend κ} {doSelect found : Bool} {w : W}
    (h : (m.adoptAndSelect k doSelect w).1 = .ok found) :
    found = true ∧ (m.adoptAndSelect k doSelect w).2.1.channel.isSome = true := by
  cases hk : ChannelTraits.isWrapped k with
  | true =>
    rw [adoptAndSelect_wrapped hk] at h
    cases h
  | false =>
    rw [adoptAndSelect_unwrapped hk] at h ⊢
    cases doSelect with
    | false =>
      cases h
      exact ⟨rfl, rfl⟩
    | true =>
      refine ⟨?_, (selectIfConfigured_state (m := m.holding k) rfl (m.releaseHeld w)).1⟩
      simp only [if_true, Managed.map] at h
      cases hselect : ((m.holding k).selectIfConfigured (m.releaseHeld w)).1 with
      | error e =>
        rw [hselect] at h
        cases h
      | ok _ =>
        rw [hselect] at h
        cases h
        rfl

/-- Opening a card gives the same whether or not it is selected then. A simulator is another matter, since
it is selected before it is a channel. -/
theorem openCard_opened [CardSimulator W ς κ] {settings : Settings} (hkind : settings.kind ≠ .localSimulator)
    (m : Manager W κ ς) (w : W) :
    ∃ opened : Except ConnectionError (Option (Backend κ)) × W, ∀ doSelect : Bool,
      openCard settings { m with doSelect } w =
        match opened with
        | (.error e, w) => (.error e, { m with doSelect }, w)
        | (.ok none, w) => (.ok false, { m with doSelect, channel := none }, m.releaseHeld w)
        | (.ok (some k), w) =>
          adoptAndSelect k (doSelect && settings.doSelect) { m with doSelect } w := by
  cases hk : settings.kind with
  | physical =>
    rcases h : connectTerminal m.terminals settings true w with ⟨outcome, w'⟩
    refine ⟨(outcome.map fun k => some (.inr k), w'), ?_⟩
    intro doSelect
    simp only [openCard, hk, h]
    cases outcome <;> rfl
  | physicalDirect =>
    rcases h : connectTerminal m.terminals settings false w with ⟨outcome, w'⟩
    refine ⟨(outcome.map fun k => some (.inr k), w'), ?_⟩
    intro doSelect
    simp only [openCard, hk, h]
    cases outcome <;> rfl
  | legacySimulator =>
    rcases h : connectLegacy m.legacyTerminals settings w with ⟨outcome, w'⟩
    refine ⟨(outcome.map fun found => found.map .inr, w'), ?_⟩
    intro doSelect
    simp only [openCard, hk, h]
    rcases outcome with e | _ | k <;> rfl
  | localSimulator => exact absurd hk hkind
  | remoteSimulator =>
    refine ⟨(.error (.unsupportedKind .remoteSimulator), w), ?_⟩
    intro doSelect
    simp only [openCard, hk]
  | remote =>
    rcases h : connectRemote m.remote settings w with ⟨outcome, w'⟩
    refine ⟨(outcome.map fun k => some (.inr k), w'), ?_⟩
    intro doSelect
    simp only [openCard, hk, h]
    cases outcome <;> rfl
  | virtualCard =>
    refine ⟨(.ok (some (.inl { config := settings.virtualCard })), w), ?_⟩
    intro doSelect
    simp only [openCard, hk]

variable [CardSimulator W ς κ] {settings : Settings}

/-- A simulator either fails before it is a channel, or its channel is adopted. -/
theorem openSimulator_cases (settings : Settings) (doSelect : Bool) (m : Manager W κ ς) (w : W) :
    ∃ m' : Manager W κ ς, m'.channel = m.channel ∧ m'.aid = m.aid ∧ m'.options = m.options ∧
      ((∃ e w', m.openSimulator settings doSelect w = (.error e, m', w')) ∨
        ∃ k w', m.openSimulator settings doSelect w = m'.adoptAndSelect k false w') := by
  unfold openSimulator
  split
  · exact ⟨m, rfl, rfl, rfl, Or.inl ⟨_, _, rfl⟩⟩
  · exact ⟨m, rfl, rfl, rfl, Or.inl ⟨_, _, rfl⟩⟩
  · next aid simulator _ hsimulator =>
    simp only
    split
    · exact ⟨{ m with simulator := none }, rfl, rfl, rfl, Or.inl ⟨_, _, rfl⟩⟩
    · cases doSelect with
      | false => exact ⟨{ m with simulator := none }, rfl, rfl, rfl, Or.inr ⟨_, _, rfl⟩⟩
      | true =>
        simp only [if_true]
        split
        · exact ⟨{ m with simulator := none }, rfl, rfl, rfl, Or.inl ⟨_, _, rfl⟩⟩
        · next response s w' _ =>
          exact ⟨{ m with simulator := none, selectResponse := some response }, rfl, rfl, rfl,
            Or.inr ⟨_, _, rfl⟩⟩

theorem openCard_ok {found : Bool} {w : W} (h : (m.openCard settings w).1 = .ok found) :
    (m.openCard settings w).2.1.channel.isSome = found := by
  by_cases hkind : settings.kind = .localSimulator
  · have hopen : m.openCard settings w = m.openSimulator settings (m.doSelect && settings.doSelect) w := by
      simp only [openCard, hkind]
    rw [hopen] at h ⊢
    obtain ⟨m', -, -, -, ⟨e, w', heq⟩ | ⟨k, w', heq⟩⟩ :=
      openSimulator_cases settings (m.doSelect && settings.doSelect) m w
    · rw [heq] at h
      cases h
    · rw [heq] at h ⊢
      obtain ⟨hfound, hheld⟩ := adoptAndSelect_ok h
      rw [hheld, hfound]
  · obtain ⟨opened, hopened⟩ := openCard_opened hkind m w
    have heq := hopened m.doSelect
    rcases opened with ⟨e | _ | k, w'⟩
    · rw [heq] at h
      cases h
    · rw [heq] at h ⊢
      cases h
      rfl
    · rw [heq] at h ⊢
      obtain ⟨hfound, hheld⟩ := adoptAndSelect_ok h
      rw [hheld, hfound]

/-- Whether a connection was made, whether a channel is held and whether the manager is connected are one
question, unless connecting failed. -/
theorem connect_outcome (settings : Settings) (m : Manager W κ ς) (w : W) :
    match (m.connect settings w).1 with
    | .ok found => (m.connect settings w).2.1.channel.isSome = found ∧
        (m.connect settings w).2.1.state = if found then .connected else .failed
    | .error _ => (m.connect settings w).2.1.state = .failed := by
  unfold connect
  rcases m.prepare settings w with ⟨m₁, w₁⟩
  rcases hopen : m₁.openCard settings w₁ with ⟨outcome, m₂, w₂⟩
  simp only [hopen]
  cases outcome with
  | error e => rfl
  | ok found =>
    refine ⟨?_, rfl⟩
    have hfound : (m₁.openCard settings w₁).1 = .ok found := by rw [hopen]
    have hheld := openCard_ok hfound
    rw [hopen] at hheld
    exact hheld

end Manager
end CardLink
