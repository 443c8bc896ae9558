import CardLink.Proofs.Connection.Lifecycle
import CardLink.Proofs.Connection.Views
import CardLink.Proofs.Normalization.Received
import CardLink.Proofs.VirtualCard.Footing

/-!
# One session at a time

A manager opens a virtual-card session when a call first needs it and ends it in many places: when it is told
to disconnect, before and while it connects anew, and when there turns out to be no card. Whatever the order of
the calls, the session before has ended, with one reset, before the next one touches the network. A channel
that was handed over is its new owner's to end.
-/

namespace CardLink

open VirtualCard

/-! ## Collaborators -/

section

variable {W κ ς : Type}

structure TerminalSource.Apart (trace : W → List NetworkEvent) (source : TerminalSource W κ) : Prop where
  terminals : ∀ w, trace (source.terminals w).2 = trace w
  connect : ∀ name w, trace (source.connect name w).2 = trace w

def RemoteConnector.Apart (trace : W → List NetworkEvent) (connector : RemoteConnector W κ) : Prop :=
  ∀ settings w, trace (connector.connect settings w).2 = trace w

/-- The world tells what a manager's sessions do to the network, where peers take all writes. Of collaborators it
tells what is sent over their channels. -/
structure Setting (trace : W → List NetworkEvent) (κ ς : Type) [ChannelTraits κ] [CardChannel W κ]
    [CardSimulator W ς κ] [Network W] [Host W] : Prop where
  traced : Traced trace
  peers : PeersTakeAll W
  log : ∀ event w, trace (Host.log event w) = trace w
  request : ∀ (r : ChannelRequest) (k : κ) w, ∃ events, trace (r.perform k w).2.2 = trace w ++ events ∧
    ∀ e ∈ events, e = .elsewhere
  release : ∀ (k : κ) w, trace (CardChannel.release k w) = trace w
  install : ∀ aid data (s : ς) w, trace (CardSimulator.install aid data s w).2.2 = trace w
  select : ∀ aid (s : ς) w, trace (CardSimulator.select aid s w).2.2 = trace w
  intoChannel : ∀ (s : ς) w, trace (CardSimulator.intoChannel s w).2 = trace w

end

/-! ## Channels that a manager can hold -/

section

variable {W κ ς : Type} {trace : W → List NetworkEvent}

def backendFooting : Backend κ → Footing
  | .inl s => s.footing
  | .inr _ => {}

def NeatBackend : Backend κ → Prop
  | .inl s => s.Neat
  | .inr _ => True

structure BackendKeeps (trace : W → List NetworkEvent) (k : Backend κ) (w : W) (o : Backend κ × W) : Prop where
  neat : NeatBackend o.1
  moves : Moves trace (backendFooting k) w (backendFooting o.1) o.2

variable [ChannelTraits κ] [CardChannel W κ] [CardSimulator W ς κ] [Network W] [Host W] {k : Backend κ} {w w' : W}

theorem request_backend (hset : Setting trace κ ς) (hk : NeatBackend k) (r : ChannelRequest) (w : W) :
    BackendKeeps trace k w (r.perform k w).2 := by
  cases k with
  | inl s =>
    have hkeeps := Session.request_keeps hset.traced hset.peers hk r w
    rw [ChannelRequest.perform_inl]
    exact ⟨hkeeps.neat, hkeeps.moves⟩
  | inr k =>
    rw [ChannelRequest.perform_inr]
    obtain ⟨events, htrace, hevents⟩ := hset.request r k w
    exact ⟨trivial, events, htrace, .elsewhere hevents⟩

/-- Letting go of a channel ends it. -/
theorem release_backend (hset : Setting trace κ ς) (hk : NeatBackend k) (w : W) :
    Moves trace (backendFooting k) w {} (CardChannel.release k w) := by
  cases k with
  | inl s =>
    obtain ⟨hkeeps, hfooting⟩ := Session.shut_keeps hset.traced hk w
    have hmoves := hkeeps.moves
    rw [hfooting] at hmoves
    exact hmoves
  | inr k => exact .quiet (hset.release k w) _

namespace Normalized

variable {n : Normalized (Backend κ)}

theorem transmit_backend (hset : Setting trace κ ς) (hn : NeatBackend n.inner) (c : Command) (w : W) :
    BackendKeeps trace n.inner w ((n.transmit c w).2.1.inner, (n.transmit c w).2.2) := by
  unfold transmit
  cases (n.normalize c).checkLengths with
  | error e => exact ⟨hn, .quiet rfl _⟩
  | ok _ =>
    have hlogged := view_logIf hset.log n.options.debug (.request (n.normalize c)) w
    have hkeeps := request_backend hset hn (.transmit (n.normalize c))
      (logIf n.options.debug (.request (n.normalize c)) w)
    refine ⟨hkeeps.neat, (Moves.quiet hlogged _).trans (hkeeps.moves.trans (.quiet ?_ _))⟩
    exact view_logIf hset.log _ _ _

theorem request_backend (hset : Setting trace κ ς) (hn : NeatBackend n.inner) (request : NormalizedRequest) (w : W) :
    BackendKeeps trace n.inner w ((request.perform n w).2.1.inner, (request.perform n w).2.2) := by
  cases request with
  | channel r =>
    cases hgiven : (NormalizedRequest.channel r).given with
    | some command =>
      rw [perform_given hgiven]
      exact transmit_backend hset hn command w
    | none =>
      by_cases hflag : r = .isWrapped
      · subst hflag
        exact ⟨hn, .quiet rfl _⟩
      · rw [perform_direct hgiven hflag]
        exact CardLink.request_backend hset hn r w
  | inner r => exact CardLink.request_backend hset hn r w
  | transmitBuffer bytes buffer =>
    simp only [NormalizedRequest.perform, transmitBuffer]
    cases Command.parse bytes with
    | error e => exact ⟨hn, .quiet rfl _⟩
    | ok c =>
      have hkeeps := transmit_backend hset hn c w
      rcases heq : n.transmit c w with ⟨e | response, n', w'⟩
      · rw [heq] at hkeeps
        simp only [heq]
        exact hkeeps
      · rw [heq] at hkeeps
        simp only [heq]
        split <;> exact hkeeps
  | _ => exact ⟨hn, .quiet rfl _⟩

end Normalized

/-! ## Managers -/

namespace Manager

variable {m m' m'' : Manager W κ ς}

def footing (m : Manager W κ ς) : Footing :=
  match m.channel with
  | none => {}
  | some n => backendFooting n.inner

structure Tidy (trace : W → List NetworkEvent) (m : Manager W κ ς) : Prop where
  channel : ∀ n, m.channel = some n → NeatBackend n.inner
  terminals : ∀ source, m.terminals = some source → source.Apart trace
  legacyTerminals : ∀ source, m.legacyTerminals = some source → source.Apart trace
  remote : ∀ connector, m.remote = some connector → connector.Apart trace

/-- What a call keeps and does to the network. -/
structure Stays (trace : W → List NetworkEvent) (m : Manager W κ ς) (w : W) (o : Manager W κ ς × W) : Prop where
  tidy : o.1.Tidy trace
  moves : Moves trace m.footing w o.1.footing o.2

omit [ChannelTraits κ] [CardChannel W κ] [CardSimulator W ς κ] [Network W] [Host W] in
theorem Stays.trans {o o' : Manager W κ ς × W} (first : Stays trace m w o) (rest : Stays trace o.1 o.2 o') :
    Stays trace m w o' :=
  ⟨rest.tidy, first.moves.trans rest.moves⟩

/-- The collaborators are still the same ones. -/
structure Keeping (m m' : Manager W κ ς) : Prop where
  terminals : m'.terminals = m.terminals
  legacyTerminals : m'.legacyTerminals = m.legacyTerminals
  remote : m'.remote = m.remote

omit [ChannelTraits κ] [CardChannel W κ] [CardSimulator W ς κ] [Network W] [Host W] in
theorem Tidy.holds (hm : m.Tidy trace) (hkeep : Keeping m m')
    (hch : ∀ n, m'.channel = some n → NeatBackend n.inner) : m'.Tidy trace := by
  refine ⟨hch, ?_, ?_, ?_⟩
  · intro source hsource
    exact hm.terminals source (hkeep.terminals ▸ hsource)
  · intro source hsource
    exact hm.legacyTerminals source (hkeep.legacyTerminals ▸ hsource)
  · intro connector hconnector
    exact hm.remote connector (hkeep.remote ▸ hconnector)

omit [ChannelTraits κ] [CardChannel W κ] [CardSimulator W ς κ] [Network W] [Host W] in
theorem footing_of_channel (hch : m'.channel = m.channel) : m'.footing = m.footing := by
  rw [footing, footing, hch]

omit [ChannelTraits κ] [CardChannel W κ] [CardSimulator W ς κ] [Network W] [Host W] in
/-- Other fields of the manager do not count. -/
theorem Stays.settle (h : Stays trace m w (m', w')) (hch : m''.channel = m'.channel) (hkeep : Keeping m' m'') :
    Stays trace m w (m'', w') := by
  refine ⟨h.tidy.holds hkeep ?_, ?_⟩
  · rw [hch]
    exact h.tidy.channel
  · rw [footing_of_channel hch]
    exact h.moves

omit [ChannelTraits κ] [CardChannel W κ] [CardSimulator W ς κ] [Network W] [Host W] in
theorem Stays.quiet (hm : m.Tidy trace) (hw : trace w' = trace w) : Stays trace m w (m, w') := ⟨hm, .quiet hw _⟩

omit [ChannelTraits κ] [CardChannel W κ] [CardSimulator W ς κ] [Network W] [Host W] in
theorem Stays.channel {n n' : Normalized (Backend κ)} (hm : m.Tidy trace) (hch : m.channel = some n)
    (hkeeps : BackendKeeps trace n.inner w (n'.inner, w')) (hch' : m'.channel = some n') (hkeep : Keeping m m') :
    Stays trace m w (m', w') := by
  refine ⟨hm.holds hkeep ?_, ?_⟩
  · intro n'' hn''
    rw [hch'] at hn''
    cases hn''
    exact hkeeps.neat
  · rw [footing, footing, hch, hch']
    exact hkeeps.moves

theorem send_moves (hset : Setting trace κ ς) (hm : m.Tidy trace) (c : Command) (w : W) :
    Stays trace m w (m.send c w).2 := by
  cases hch : m.channel with
  | none =>
    rw [send_none hch]
    exact .quiet hm rfl
  | some n =>
    rw [send_some hch]
    exact .channel hm hch (Normalized.transmit_backend hset (hm.channel n hch) c w) rfl ⟨rfl, rfl, rfl⟩

omit [ChannelTraits κ] [CardChannel W κ] [CardSimulator W ς κ] [Network W] [Host W] in
theorem withChannel_moves {β : Type} {call : Normalized (Backend κ) → W → Outcome (Normalized (Backend κ)) W β}
    (hcall : ∀ n, NeatBackend n.inner → BackendKeeps trace n.inner w ((call n w).2.1.inner, (call n w).2.2))
    (hm : m.Tidy trace) : Stays trace m w (m.withChannel call w).2 := by
  cases hch : m.channel with
  | none =>
    simp only [withChannel, hch]
    exact .quiet hm rfl
  | some n =>
    simp only [withChannel, hch]
    exact .channel hm hch (hcall n (hm.channel n hch)) rfl ⟨rfl, rfl, rfl⟩

theorem releaseHeld_moves (hset : Setting trace κ ς) (hm : m.Tidy trace) (w : W) :
    Moves trace m.footing w {} (m.releaseHeld w) := by
  cases hch : m.channel with
  | none =>
    simp only [footing, releaseHeld, hch]
    exact .quiet rfl _
  | some n =>
    simp only [footing, releaseHeld, hch]
    exact release_backend hset (hm.channel n hch) w

/-- The channel before is let go of, and the new one has not touched the network yet. -/
theorem adopt_moves (hset : Setting trace κ ς) (hm : m.Tidy trace) {k : Backend κ} (hk : NeatBackend k)
    (hfooting : backendFooting k = {}) (w : W) : Stays trace m w (m.adopt k w).2 := by
  cases hwrapped : ChannelTraits.isWrapped k with
  | true =>
    rw [adopt_wrapped hwrapped]
    cases k with
    | inl s => cases hwrapped
    | inr k => exact .quiet hm (hset.release k w)
  | false =>
    rw [adopt_unwrapped hwrapped]
    refine ⟨hm.holds ⟨rfl, rfl, rfl⟩ ?_, ?_⟩
    · intro n hn
      cases hn
      exact hk
    · have hnew : (m.holding k).footing = {} := hfooting
      rw [hnew]
      exact releaseHeld_moves hset hm w

theorem selectApplet_moves (hset : Setting trace κ ς) (hm : m.Tidy trace) (w : W) :
    Stays trace m w (m.selectApplet w).2 := by
  cases haid : m.aid with
  | none =>
    rw [selectApplet_none haid]
    exact .quiet hm rfl
  | some aid =>
    rw [selectApplet_some haid]
    exact send_moves hset hm _ w

theorem selectIfConfigured_moves (hset : Setting trace κ ς) (hm : m.Tidy trace) (w : W) :
    Stays trace m w (m.selectIfConfigured w).2 := by
  cases haid : m.aid with
  | none =>
    rw [selectIfConfigured_none haid]
    exact .quiet hm rfl
  | some aid =>
    have hsend := send_moves hset hm (.selectAid aid) w
    rw [selectIfConfigured_some haid]
    rcases heq : m.send (.selectAid aid) w with ⟨e | response, m', w'⟩
    · rw [heq] at hsend
      exact hsend
    · rw [heq] at hsend
      exact hsend.settle rfl ⟨rfl, rfl, rfl⟩

theorem adoptAndSelect_moves (hset : Setting trace κ ς) (hm : m.Tidy trace) {k : Backend κ} (hk : NeatBackend k)
    (hfooting : backendFooting k = {}) (doSelect : Bool) (w : W) :
    Stays trace m w (m.adoptAndSelect k doSelect w).2 := by
  have hadopt := adopt_moves hset hm hk hfooting w
  unfold adoptAndSelect
  rcases heq : m.adopt k w with ⟨e | ⟨⟩, m₁, w₁⟩
  · rw [heq] at hadopt
    exact hadopt
  · rw [heq] at hadopt
    cases doSelect with
    | false => exact hadopt
    | true =>
      have hselect := selectIfConfigured_moves hset hadopt.tidy w₁
      simp only [if_true]
      rcases heq' : m₁.selectIfConfigured w₁ with ⟨e | ⟨⟩, m₂, w₂⟩
      · rw [heq'] at hselect
        exact hadopt.trans hselect
      · rw [heq'] at hselect
        exact hadopt.trans hselect

/-- A channel that others opened in the meantime is held like any other. -/
theorem adoptAndSelect_opened (hset : Setting trace κ ς) (hm : m.Tidy trace) (channel : κ) (doSelect : Bool)
    (hw : trace w' = trace w) : Stays trace m w (m.adoptAndSelect (.inr channel) doSelect w').2 :=
  (Stays.quiet hm hw).trans (adoptAndSelect_moves hset hm (k := .inr channel) trivial rfl doSelect w')

theorem disconnect_moves (hset : Setting trace κ ς) (hm : m.Tidy trace) (reset : Bool) (w : W) :
    Stays trace m w (m.disconnect reset w).2 := by
  refine ⟨?_, ?_⟩
  · rw [disconnect_after]
    exact hm.holds ⟨rfl, rfl, rfl⟩ (by simp)
  · have hgone : (m.disconnect reset w).2.1.footing = {} := by
      rw [disconnect_after]
      rfl
    rw [hgone]
    cases hch : m.channel with
    | none =>
      simp only [footing, disconnect, hch]
      exact .quiet rfl _
    | some n =>
      have hkeeps := request_backend hset (hm.channel n hch) (.disconnect reset) w
      simp only [footing, disconnect, hch]
      exact hkeeps.moves.trans (release_backend hset hkeeps.neat _)

/-! ## Connecting -/

omit [ChannelTraits κ] [CardChannel W κ] [CardSimulator W ς κ] [Network W] [Host W] in
theorem connectTerminal_quiet {source : Option (TerminalSource W κ)}
    (hsource : ∀ s, source = some s → s.Apart trace) (settings : Settings) (byName : Bool) (w : W) :
    trace (connectTerminal source settings byName w).2 = trace w := by
  cases source with
  | none => rfl
  | some source =>
    obtain ⟨hterminals, hconnect⟩ := hsource source rfl
    have hlist := hterminals w
    simp only [connectTerminal]
    rcases heq : source.terminals w with ⟨e | terminals, w₁⟩
    · rw [heq] at hlist
      exact hlist
    · rw [heq] at hlist
      cases hchoose : Terminal.choose settings byName terminals with
      | error e => simp only [hchoose, hlist]
      | ok t => simp only [hchoose, hconnect, hlist]

omit [ChannelTraits κ] [CardChannel W κ] [CardSimulator W ς κ] [Network W] [Host W] in
theorem connectLegacy_quiet {source : Option (TerminalSource W κ)}
    (hsource : ∀ s, source = some s → s.Apart trace) (settings : Settings) (w : W) :
    trace (connectLegacy source settings w).2 = trace w := by
  cases source with
  | none => rfl
  | some source =>
    obtain ⟨hterminals, hconnect⟩ := hsource source rfl
    have hlist := hterminals w
    simp only [connectLegacy]
    rcases heq : source.terminals w with ⟨e | terminals, w₁⟩
    · rw [heq] at hlist
      exact hlist
    · rw [heq] at hlist
      rcases hchoose : Terminal.chooseSimulated settings terminals with e | _ | t
      · simp only [hchoose, hlist]
      · simp only [hchoose, hlist]
      · simp only [hchoose, hconnect, hlist]

omit [ChannelTraits κ] [CardChannel W κ] [CardSimulator W ς κ] [Network W] [Host W] in
theorem connectRemote_quiet {connector : Option (RemoteConnector W κ)}
    (hconnector : ∀ c, connector = some c → c.Apart trace) (settings : Settings) (w : W) :
    trace (connectRemote connector settings w).2 = trace w := by
  cases connector with
  | none => rfl
  | some connector => exact hconnector connector rfl settings w

theorem openSimulator_moves (hset : Setting trace κ ς) (hm : m.Tidy trace) (settings : Settings) (doSelect : Bool)
    (w : W) : Stays trace m w (m.openSimulator settings doSelect w).2 := by
  have hunused : ∀ response, ({ m with simulator := none, selectResponse := response } : Manager W κ ς).Tidy trace :=
    fun response => hm.holds ⟨rfl, rfl, rfl⟩ hm.channel
  -- a channel from a simulator is adopted like any other, by the manager with the simulator used up
  have hadopt : ∀ response k w', trace w' = trace w →
      Stays trace m w (adoptAndSelect (.inr k) false
        ({ m with simulator := none, selectResponse := response } : Manager W κ ς) w').2 := by
    intro response k w' hw
    have hstays := adoptAndSelect_opened hset (hunused response) k false hw
    exact ⟨hstays.tidy, hstays.moves⟩
  have hfailed : ∀ w', trace w' = trace w → Stays trace m w ({ m with simulator := none }, w') :=
    fun w' hw => ⟨hunused m.selectResponse, .quiet hw _⟩
  unfold openSimulator
  split
  · exact .quiet hm rfl
  · exact .quiet hm rfl
  · next aid simulator haid _ =>
    have hinstall := hset.install aid (settings.installData.getD []) simulator w
    rcases heq : CardSimulator.install aid (settings.installData.getD []) simulator w with ⟨e | ⟨⟩, s₁, w₁⟩
    · rw [heq] at hinstall
      exact hfailed w₁ hinstall
    · rw [heq] at hinstall
      cases doSelect with
      | false => exact hadopt m.selectResponse _ _ ((hset.intoChannel s₁ w₁).trans hinstall)
      | true =>
        have hselect := hset.select aid s₁ w₁
        simp only [if_true]
        rcases heq' : CardSimulator.select aid s₁ w₁ with ⟨e | response, s₂, w₂⟩
        · rw [heq'] at hselect
          exact hfailed w₂ (hselect.trans hinstall)
        · rw [heq'] at hselect
          exact hadopt (some response) _ _ ((hset.intoChannel s₂ w₂).trans (hselect.trans hinstall))

theorem opened_moves (hset : Setting trace κ ς) (hm : m.Tidy trace) (doSelect : Bool)
    (outcome : Except ConnectionError κ × W) :
    trace outcome.2 = trace w → Stays trace m w
      (match outcome with
        | (.error e, w) => (.error e, m, w)
        | (.ok channel, w) => m.adoptAndSelect (.inr channel) doSelect w : Managed W κ ς Bool).2 := by
  intro hw
  rcases outcome with ⟨e | channel, w'⟩
  · exact .quiet hm hw
  · exact adoptAndSelect_opened hset hm channel doSelect hw

theorem openCard_moves (hset : Setting trace κ ς) (hm : m.Tidy trace) (settings : Settings) (w : W) :
    Stays trace m w (m.openCard settings w).2 := by
  cases hkind : settings.kind with
  | physical =>
    simp only [openCard, hkind]
    exact opened_moves hset hm _ _ (connectTerminal_quiet hm.terminals settings true w)
  | physicalDirect =>
    simp only [openCard, hkind]
    exact opened_moves hset hm _ _ (connectTerminal_quiet hm.terminals settings false w)
  | legacySimulator =>
    have hlegacy := connectLegacy_quiet hm.legacyTerminals settings w
    simp only [openCard, hkind]
    rcases heq : connectLegacy m.legacyTerminals settings w with ⟨e | _ | channel, w'⟩
    · rw [heq] at hlegacy
      exact .quiet hm hlegacy
    · rw [heq] at hlegacy
      refine ⟨hm.holds ⟨rfl, rfl, rfl⟩ (by simp), ?_⟩
      exact (Moves.quiet hlegacy _).trans (releaseHeld_moves hset hm w')
    · rw [heq] at hlegacy
      exact adoptAndSelect_opened hset hm channel _ hlegacy
  | localSimulator =>
    simp only [openCard, hkind]
    exact openSimulator_moves hset hm settings _ w
  | remoteSimulator =>
    simp only [openCard, hkind]
    exact .quiet hm rfl
  | remote =>
    simp only [openCard, hkind]
    exact opened_moves hset hm _ _ (connectRemote_quiet hm.remote settings w)
  | virtualCard =>
    simp only [openCard, hkind]
    exact adoptAndSelect_moves hset hm (k := .inl _) (Session.neat_new settings.virtualCard) rfl _ w

theorem prepare_moves (hset : Setting trace κ ς) (hm : m.Tidy trace) (settings : Settings) (w : W) :
    Stays trace m w (m.prepare settings w) := by
  have hnamed : ({ m with aid := m.aid.or settings.aid } : Manager W κ ς).Tidy trace :=
    hm.holds ⟨rfl, rfl, rfl⟩ hm.channel
  have hdisconnect := disconnect_moves hset hnamed true w
  have hended : Stays trace m w _ := ⟨hdisconnect.tidy, hdisconnect.moves⟩
  simp only [prepare]
  split
  · exact hended.settle rfl ⟨rfl, rfl, rfl⟩
  · exact (Stays.quiet hm rfl).settle rfl ⟨rfl, rfl, rfl⟩

theorem connect_moves (hset : Setting trace κ ς) (hm : m.Tidy trace) (settings : Settings) (w : W) :
    Stays trace m w (m.connect settings w).2 := by
  have hprepare := prepare_moves hset hm settings w
  have hopen := openCard_moves hset hprepare.tidy settings (m.prepare settings w).2
  unfold connect
  rcases heq : (m.prepare settings w).1.openCard settings (m.prepare settings w).2 with ⟨e | found, m', w'⟩
  · rw [heq] at hopen
    simp only [heq]
    exact (hprepare.trans hopen).settle rfl ⟨rfl, rfl, rfl⟩
  · rw [heq] at hopen
    simp only [heq]
    exact (hprepare.trans hopen).settle rfl ⟨rfl, rfl, rfl⟩

theorem connectChannel_moves (hset : Setting trace κ ς) (hm : m.Tidy trace) (channel : κ) (w : W) :
    Stays trace m w (m.connectChannel channel w).2 := by
  have hadopt := adopt_moves hset hm (k := .inr channel) trivial rfl w
  unfold connectChannel
  rcases heq : m.adopt (.inr channel) w with ⟨e | ⟨⟩, m', w'⟩
  · rw [heq] at hadopt
    exact hadopt
  · rw [heq] at hadopt
    exact hadopt.settle rfl ⟨rfl, rfl, rfl⟩

theorem connectSimulator_moves (hset : Setting trace κ ς) (hm : m.Tidy trace) (simulator : ς) (w : W) :
    Stays trace m w (m.connectSimulator simulator w).2 := by
  have hchannel := hset.intoChannel simulator w
  have hadopt := adopt_moves hset hm (k := .inr (CardSimulator.intoChannel simulator w).1) trivial rfl
    (CardSimulator.intoChannel simulator w).2
  have hstays := (Stays.quiet hm hchannel).trans hadopt
  unfold connectSimulator
  rcases heq : m.adopt (.inr (CardSimulator.intoChannel simulator w).1) (CardSimulator.intoChannel simulator w).2
    with ⟨e | ⟨⟩, m', w'⟩
  · rw [heq] at hstays
    simp only [heq]
    exact hstays
  · rw [heq] at hstays
    have hconnected : Stays trace m w ({ m' with lastKind := some .localSimulator, state := .connected }, w') :=
      hstays.settle rfl ⟨rfl, rfl, rfl⟩
    simp only [heq]
    split
    · exact hconnected.trans (selectIfConfigured_moves hset hconnected.tidy w')
    · exact hconnected

/-! ## Calls -/

theorem atr_moves (hset : Setting trace κ ς) (hm : m.Tidy trace) (w : W) : Stays trace m w (m.atr w).2 := by
  have hatr : ∀ n : Normalized (Backend κ), NeatBackend n.inner → BackendKeeps trace n.inner w
      ((CardChannel.atr n w).2.1.inner, (CardChannel.atr n w).2.2) :=
    fun n hn => Normalized.request_backend hset hn (.channel .atr) w
  exact withChannel_moves hatr hm

omit [ChannelTraits κ] [CardChannel W κ] [CardSimulator W ς κ] [Network W] [Host W] in
theorem footing_settled (m : Manager W κ ς) : m.footing.Settled := by
  rcases hch : m.channel with _ | ⟨s | k⟩
  · simp only [footing, hch]
    rfl
  · simp only [footing, hch]
    exact s.footing_settled
  · simp only [footing, hch]
    rfl

omit [ChannelTraits κ] [CardChannel W κ] [CardSimulator W ς κ] [Network W] [Host W] in
theorem changeOption_moves (d : OptionChange) (h : Stays trace m w (m', w')) :
    Stays trace m w (m'.changeOption d, w') := by
  cases hch : m'.channel with
  | none => exact h.settle (by rw [changeOption, hch]; rfl) ⟨rfl, rfl, rfl⟩
  | some n =>
    obtain ⟨n', hchanged, hinner⟩ : ∃ n', (m'.changeOption d).channel = some n' ∧ n'.inner = n.inner :=
      ⟨{ n with options := m'.options.change d }, by simp only [changeOption, hch, Option.map_some], rfl⟩
    have hsame : BackendKeeps trace n.inner w' (n'.inner, w') := by
      rw [hinner]
      exact ⟨h.tidy.channel n hch, .quiet rfl _⟩
    exact h.trans (.channel h.tidy hch hsame hchanged ⟨rfl, rfl, rfl⟩)

omit [ChannelTraits κ] [CardChannel W κ] [CardSimulator W ς κ] [Network W] [Host W] in
theorem changeOptions_moves (changes : List OptionChange) (h : Stays trace m w (m', w')) :
    Stays trace m w (changes.foldl (fun m d => m.changeOption d) m', w') := by
  induction changes generalizing m' with
  | nil => exact h
  | cons d changes ih => exact ih (changeOption_moves d h)

end Manager

/-- The collaborators that a call brings along have no part in the network. -/
def ManagerRequest.Apart (trace : W → List NetworkEvent) : ManagerRequest W κ ς → Prop
  | .withTerminals source => source.Apart trace
  | .withLegacyTerminals source => source.Apart trace
  | .withRemote connector => connector.Apart trace
  | _ => True

namespace ManagerRequest

variable {m : Manager W κ ς} {request : ManagerRequest W κ ς}

theorem perform_moves (hset : Setting trace κ ς) (hm : m.Tidy trace) (hrequest : request.Apart trace)
    (htake : request ≠ .takeChannel) (hreturn : ∀ n, request ≠ .returnChannel n) (w : W) :
    Manager.Stays trace m w (request.perform m w).2 := by
  have hquiet : Manager.Stays trace m w (m, w) := .quiet hm rfl
  cases request with
  | connect settings => exact Manager.connect_moves hset hm settings w
  | connectChannel channel => exact Manager.connectChannel_moves hset hm channel w
  | connectSimulator simulator => exact Manager.connectSimulator_moves hset hm simulator w
  | withTerminals source =>
    refine ⟨{ hm with terminals := ?_ }, .quiet rfl _⟩
    intro source' hsource
    cases hsource
    exact hrequest
  | withLegacyTerminals source =>
    refine ⟨{ hm with legacyTerminals := ?_ }, .quiet rfl _⟩
    intro source' hsource
    cases hsource
    exact hrequest
  | withRemote connector =>
    refine ⟨{ hm with remote := ?_ }, .quiet rfl _⟩
    intro connector' hconnector
    cases hconnector
    exact hrequest
  | withSimulator simulator => exact hquiet.settle rfl ⟨rfl, rfl, rfl⟩
  | withOptions options => exact hquiet.settle rfl ⟨rfl, rfl, rfl⟩
  | setAid aid => exact hquiet.settle rfl ⟨rfl, rfl, rfl⟩
  | setDoSelect doSelect => exact hquiet.settle rfl ⟨rfl, rfl, rfl⟩
  | change changes => exact Manager.changeOptions_moves changes hquiet
  | transmit command =>
    by_cases hstate : m.state = .connected
    · simp only [perform, Manager.transmit, hstate, if_true]
      exact Manager.send_moves hset hm command w
    · simp only [perform, Manager.transmit, hstate, if_false]
      exact hquiet
  | selectApplet => exact Manager.selectApplet_moves hset hm w
  | disconnect reset => exact Manager.disconnect_moves hset hm reset w
  | takeChannel => exact absurd rfl htake
  | returnChannel n => exact absurd rfl (hreturn n)
  | onChannel request =>
    exact Manager.withChannel_moves (fun n hn => Normalized.request_backend hset hn request w) hm
  | atr => exact Manager.atr_moves hset hm w
  | reset => exact Manager.atr_moves hset hm w
  | protocol =>
    have hprotocol : ∀ n : Normalized (Backend κ), NeatBackend n.inner → BackendKeeps trace n.inner w
        ((CardChannel.protocol n w).2.1.inner, (CardChannel.protocol n w).2.2) :=
      fun n hn => Normalized.request_backend hset hn (.channel .protocol) w
    exact Manager.withChannel_moves hprotocol hm

/-- What a call does to the network with channels that are the manager's. One that it gave away is not. -/
def events (trace : W → List NetworkEvent) (request : ManagerRequest W κ ς) (m : Manager W κ ς) (w : W) :
    List NetworkEvent :=
  match request with
  | .takeChannel => m.channel.toList.map fun _ => .handedOver
  | .returnChannel _ => []
  | request => (trace (request.perform m w).2.2).drop (trace w).length

theorem perform_path (hset : Setting trace κ ς) (hm : m.Tidy trace) (hrequest : request.Apart trace) (w : W) :
    (request.perform m w).2.1.Tidy trace ∧
      Footing.Path m.footing (request.events trace m w) (request.perform m w).2.1.footing := by
  by_cases htake : request = .takeChannel
  · subst htake
    refine ⟨hm.holds ⟨rfl, rfl, rfl⟩ (by simp [perform, Manager.takeChannel]), ?_⟩
    cases hch : m.channel with
    | none =>
      simp only [events, Manager.footing, perform, Manager.takeChannel, hch]
      exact .nil _
    | some n =>
      have hsettled : (backendFooting n.inner).Settled := by
        have hsettled := m.footing_settled
        simp only [Manager.footing, hch] at hsettled
        exact hsettled
      simp only [events, Manager.footing, perform, Manager.takeChannel, hch]
      exact .single (hsettled.handedOver)
  · by_cases hreturn : ∃ n, request = .returnChannel n
    · obtain ⟨n, rfl⟩ := hreturn
      exact ⟨hm, .nil _⟩
    · have hmoves := perform_moves hset hm hrequest htake (fun n hn => hreturn ⟨n, hn⟩) w
      have hevents : request.events trace m w = (trace (request.perform m w).2.2).drop (trace w).length := by
        cases request with
        | takeChannel => exact absurd rfl htake
        | returnChannel n => exact absurd ⟨n, rfl⟩ hreturn
        | _ => rfl
      obtain ⟨es, htrace, hpath⟩ := hmoves.moves
      rw [hevents, htrace, List.drop_left]
      exact ⟨hmoves.tidy, hpath⟩

end ManagerRequest

/-! ## Runs -/

namespace Manager

/-- What calls in sequence do to the network, up to what a channel does that was given away. -/
def history (trace : W → List NetworkEvent) (m : Manager W κ ς) (w : W) :
    List (ManagerRequest W κ ς) → List NetworkEvent
  | [] => []
  | request :: requests =>
    request.events trace m w ++ history trace (request.perform m w).2.1 (request.perform m w).2.2 requests

variable {m : Manager W κ ς}

theorem run_path (hset : Setting trace κ ς) (hm : m.Tidy trace) {requests : List (ManagerRequest W κ ς)}
    (hrequests : ∀ r ∈ requests, r.Apart trace) (w : W) :
    (m.run w requests).1.Tidy trace ∧
      Footing.Path m.footing (m.history trace w requests) (m.run w requests).1.footing := by
  induction requests generalizing m w with
  | nil => exact ⟨hm, .nil _⟩
  | cons request requests ih =>
    obtain ⟨htidy, hpath⟩ :=
      request.perform_path hset hm (hrequests _ List.mem_cons_self) w
    obtain ⟨htidy', hpath'⟩ := ih htidy (fun r hr => hrequests r (List.mem_cons_of_mem _ hr)) _
    exact ⟨htidy', hpath.append hpath'⟩

omit [ChannelTraits κ] [CardChannel W κ] [CardSimulator W ς κ] [Network W] [Host W] in
theorem tidy_new (trace : W → List NetworkEvent) (debug : Bool) (aid : Option Bytes) :
    (new debug aid : Manager W κ ς).Tidy trace :=
  ⟨by simp [new], by simp [new], by simp [new], by simp [new]⟩

/-- A manager has at most one virtual-card session at a time, whatever its calls are. A port is bound, a peer
dialled or another channel used only when nothing of an earlier session is left. A connection that was made is
still held, or it was given up with nothing sent, or it ended with one reset and its port was given back next, or
its channel was handed over. A port that was bound only serves until it is given back. A session that is held
after some of the calls is not just given up. -/
theorem one_session_at_a_time (hset : Setting trace κ ς) (debug : Bool) (aid : Option Bytes) (w : W)
    {requests : List (ManagerRequest W κ ς)} (hrequests : ∀ r ∈ requests, r.Apart trace) :
    let start : Manager W κ ς := new debug aid
    let events := start.history trace w requests
    let last := (start.run w requests).1.footing
    Footing.Path {} events last ∧
      (∀ before e after id, events = before ++ e :: after → e.made = some id →
        Footing.Concluded e.port id after last ∨ ∃ rest, after = .hungUp id [] :: rest) ∧
      (∀ before port after, events = before ++ .bound (some port) :: after → Footing.Served port after last) ∧
      ∀ before after, requests = before ++ after →
        let (m', w') := start.run w before
        ∀ n s link, m'.channel = some n → n.inner = .inl s → s.link = some link →
          Footing.Concluded s.bound link.id (m'.history trace w' after) last := by
  intro start events last
  have hstart : start.Tidy trace := tidy_new trace debug aid
  have hpath : Footing.Path {} events last := (run_path hset hstart hrequests w).2
  have hlast : last.Settled := footing_settled _
  refine ⟨hpath, ?_, ?_, ?_⟩
  · intro before e after id hsplit hmade
    rw [hsplit] at hpath
    obtain ⟨f, -, hrest⟩ := hpath.split
    obtain ⟨f', g, hstep, hafter⟩ := hrest.uncons
    rw [hstep.made hmade] at hafter
    rcases hafter.connected hlast with hconcluded | ⟨-, hgivenUp⟩
    · exact Or.inl hconcluded
    · exact Or.inr hgivenUp
  · intro before port after hsplit
    rw [hsplit] at hpath
    obtain ⟨f, -, hrest⟩ := hpath.split
    obtain ⟨f', g, hstep, hafter⟩ := hrest.uncons
    cases hstep
    exact hafter.served rfl
  · intro before after hsplit n s link hch hinner hlink
    subst hsplit
    have hbefore := (run_path hset hstart (fun r hr => hrequests r (List.mem_append_left _ hr)) w).1
    have hafter := (run_path hset hbefore (fun r hr => hrequests r (List.mem_append_right _ hr))
      (start.run w before).2).2
    rw [← run_append] at hafter
    have hfooting : (start.run w before).1.footing =
        { port := s.bound, connection := some link.id, used := true } := by
      simp only [footing, hch, backendFooting, hinner, Session.footing, hlink, Option.map_some, Option.isSome_some]
    rw [hfooting] at hafter
    rcases hafter.connected hlast with hconcluded | ⟨hused, -⟩
    · exact hconcluded
    · cases hused

end Manager

end

/-! ## Recording -/

/-- A world beside what happened on its network. -/
structure Overheard (W : Type) where
  world : W
  events : List NetworkEvent := []

/-- A collaborator's channel or simulator in a world that is recorded. -/
structure Foreign (κ : Type) where
  inner : κ

section

variable {W κ ς : Type}

namespace Overheard

def happened (r : Overheard W) (world : W) (event : NetworkEvent) : Overheard W := ⟨world, r.events ++ [event]⟩

/-- A call on a collaborator's channel. -/
def call {α : Type} (call : κ → W → Outcome κ W α) (k : Foreign κ) (r : Overheard W) :
    Outcome (Foreign κ) (Overheard W) α :=
  let (outcome, inner, world) := call k.inner r.world
  (outcome, ⟨inner⟩, r.happened world .elsewhere)

instance [Network W] : Network (Overheard W) where
  resolve host port r :=
    let (outcome, world) := Network.resolve host port r.world
    (outcome, { r with world })
  dial address deadline r :=
    let (outcome, world) := Network.dial address deadline r.world
    (outcome, r.happened world (.dialled (outcome.toOption.map Connection.id)))
  bind port r :=
    let (outcome, world) := Network.bind port r.world
    (outcome, r.happened world (.bound outcome.toOption))
  accept port deadline r :=
    let (outcome, world) := Network.accept port deadline r.world
    (outcome, r.happened world (.accepted port (outcome.toOption.map Connection.id)))
  hangUp id codec r := r.happened (Network.hangUp id codec r.world) (.hungUp id codec.sink.accepted)
  unbind port r := r.happened (Network.unbind port r.world) (.unbound port)

instance [Host W] : Host (Overheard W) where
  now r := Host.now r.world
  log event r := { r with world := Host.log event r.world }

instance [ChannelTraits κ] : ChannelTraits (Foreign κ) where
  number k := ChannelTraits.number k.inner
  isWrapped k := ChannelTraits.isWrapped k.inner

instance [CardChannel W κ] : CardChannel (Overheard W) (Foreign κ) where
  transmit command := call (CardChannel.transmit command)
  atr := call CardChannel.atr
  close := call CardChannel.close
  protocol := call CardChannel.protocol
  beginExclusive := call CardChannel.beginExclusive
  endExclusive := call CardChannel.endExclusive
  disconnect reset := call (CardChannel.disconnect reset)
  release k r := { r with world := CardChannel.release k.inner r.world }

instance [CardSimulator W ς κ] : CardSimulator (Overheard W) (Foreign ς) (Foreign κ) where
  install aid data s r :=
    let (outcome, inner, world) := CardSimulator.install aid data s.inner r.world
    (outcome, ⟨inner⟩, { r with world })
  select aid s r :=
    let (outcome, inner, world) := CardSimulator.select aid s.inner r.world
    (outcome, ⟨inner⟩, { r with world })
  intoChannel s r :=
    let (inner, world) := CardSimulator.intoChannel s.inner r.world
    (⟨inner⟩, { r with world })

variable [ChannelTraits κ] [CardChannel W κ] [CardSimulator W ς κ] [Network W] [Host W]

/-- What happens on a network can be recorded in any world. -/
theorem setting (hpeers : PeersTakeAll W) :
    Setting (Overheard.events : Overheard W → List NetworkEvent) (Foreign κ) (Foreign ς) where
  traced := ⟨fun _ _ _ => rfl, fun _ _ _ => rfl, fun _ _ => rfl, fun _ _ _ => rfl, fun _ _ _ => rfl, fun _ _ => rfl⟩
  peers := ⟨fun address deadline r => hpeers.dial address deadline r.world,
    fun port deadline r => hpeers.accept port deadline r.world⟩
  log _ _ := rfl
  request r k v := by
    have hquiet : ∃ events, v.events = v.events ++ events ∧ ∀ e ∈ events, e = .elsewhere := ⟨[], by simp⟩
    have hcalled : ∃ events, v.events ++ [.elsewhere] = v.events ++ events ∧ ∀ e ∈ events, e = .elsewhere :=
      ⟨[.elsewhere], by simp⟩
    rcases r with _ | _ | _ | _ | _ | _ | _ | _ | _ | _ | r
    case number => exact hquiet
    case isWrapped => exact hquiet
    case card =>
      cases r with
      | basicNumber => exact hquiet
      | _ => exact hcalled
    all_goals exact hcalled
  release _ _ := rfl
  install _ _ _ _ := rfl
  select _ _ _ := rfl
  intoChannel _ _ := rfl

end Overheard

theorem VirtualCard.LocalHost.peersTakeAll (ε : Type) : PeersTakeAll (LocalHost ε) := by
  have hfresh : ∀ id source, Connection.Fresh ⟨id, source, {}⟩ :=
    fun id source => ⟨⟨by simp, by simp, rfl, rfl⟩, rfl⟩
  constructor
  · intro address deadline w connection hmade
    simp only [Network.dial, LocalNetwork.dial] at hmade
    split at hmade
    · split at hmade
      · cases hmade
      · cases hmade
        exact hfresh _ _
    · cases hmade
  · intro port deadline w connection hmade
    simp only [Network.accept, LocalNetwork.accept] at hmade
    split at hmade
    · cases hmade
    · cases hmade
      exact hfresh _ _

namespace Manager

open Scripted (World AnyChannel AnySimulator)

/-- Three peers that call one port in turn. -/
def threeCallers : Overheard World where
  world := { network := { routed := true, calling := [(1024, 1, {}), (1024, 2, {}), (1024, 3, {})] } }

def listeningCard : Settings where
  kind := .virtualCard
  port := 1024
  aid := some [0xF0]

/-- The same port is listened on again and again, after a failure, after a card of another kind, after a
disconnect. -/
def rebindingCalls : List (ManagerRequest (Overheard World) (Foreign AnyChannel) (Foreign AnySimulator)) :=
  [.connect { listeningCard with doSelect := false }, .atr, .connect {}, .connect listeningCard,
    .connectChannel ⟨.inr (.inr (.inl {}))⟩, .selectApplet,
    .connect { listeningCard with disconnectPrevious := true }, .takeChannel]

theorem one_session_at_a_time_rebinding :
    let start : Manager (Overheard World) (Foreign AnyChannel) (Foreign AnySimulator) := new false none
    let events := start.history Overheard.events threeCallers rebindingCalls
    Footing.Path {} events {} ∧ events =
      [.bound (some 1024), .accepted 1024 (some 1),
        .hungUp 1 (Frame.control .powerOn ++ Frame.control .getAtr ++ Frame.control .reset), .unbound 1024,
        .bound (some 1024), .accepted 1024 (some 2),
        .hungUp 2 (Frame.control .powerOn ++ [0x00, 0x06, 0x00, 0xA4, 0x04, 0x00, 0x01, 0xF0] ++ Frame.control .reset),
        .unbound 1024, .elsewhere, .elsewhere,
        .bound (some 1024), .accepted 1024 (some 3), .handedOver] := by
  have hcalls : ∀ r ∈ rebindingCalls, r.Apart Overheard.events := by
    simp [rebindingCalls, ManagerRequest.Apart]
  obtain ⟨hpath, -⟩ :=
    one_session_at_a_time (Overheard.setting (LocalHost.peersTakeAll _)) false none threeCallers hcalls
  exact ⟨hpath, rfl⟩

end Manager

end

end CardLink
