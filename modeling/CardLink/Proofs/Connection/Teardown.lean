import CardLink.Proofs.Connection.CallRegister
import CardLink.Proofs.VirtualCard.SessionTraffic
import CardLink.Scripted.Collaborator

/-!
# Teardown

Disconnecting makes one call on the held channel and lets go of it, whatever comes of the call. Connecting anew may
disconnect first, and ignores what came of that. Channels are owned: one that was let go of is not handed in again.
So nothing is ever done to a channel after it was torn down.
-/

namespace CardLink

open VirtualCard (Network Session)

section

variable {W κ ς : Type}

/-! ## Tearing down -/

/-- A session that is let go of after it was shut is left as it is. -/
theorem VirtualCard.Session.shut_again [Network W] (s : Session) (w : W) :
    (s.shut w).1.shut (s.shut w).2 = s.shut w := by
  have hclosed := s.shut_closed w
  rw [shut, hclosed]
  rfl

namespace Manager

variable [CardChannel W κ] [Network W] [Host W] {m : Manager W κ ς}

theorem disconnect_none (h : m.channel = none) (reset : Bool) (w : W) :
    m.disconnect reset w = (.ok (), { m with state := .disconnected, channel := none }, w) := by
  simp only [disconnect, h]

theorem disconnect_some {n : Normalized (Backend κ)} (h : m.channel = some n) (reset : Bool) (w : W) :
    m.disconnect reset w =
      ((CardChannel.disconnect reset n.inner w).1.mapError .card,
        { m with state := .disconnected, channel := none },
        CardChannel.release (CardChannel.disconnect reset n.inner w).2.1
          (CardChannel.disconnect reset n.inner w).2.2) := by
  simp only [disconnect, h]
  rfl

theorem disconnect_session {n : Normalized (Backend κ)} {s : Session} (h : m.channel = some n) (hs : n.inner = .inl s)
    (reset : Bool) (w : W) :
    m.disconnect reset w = (.ok (), { m with state := .disconnected, channel := none }, (s.shut w).2) := by
  have hagain := congrArg Prod.snd (s.shut_again w)
  rw [disconnect_some h, hs]
  exact Prod.ext rfl (Prod.ext rfl hagain)

/-- The register notes one call, and that the channel was let go of. -/
theorem disconnect_labelled {m : Manager (Register W) (Labelled κ) (Labelled ς)} {n : Normalized (Backend (Labelled κ))}
    {k : Labelled κ} (h : m.channel = some n) (hk : n.inner = .inr k) (reset : Bool) (r : Register W) :
    m.disconnect reset r =
      ((CardChannel.disconnect reset k.inner r.world).1.mapError .card,
        { m with state := .disconnected, channel := none },
        ⟨CardChannel.release (CardChannel.disconnect reset k.inner r.world).2.1
          (CardChannel.disconnect reset k.inner r.world).2.2,
          r.events ++ [.call k.label (.disconnect reset), .letGo k.label]⟩) := by
  have hevents : r.events ++ [.call k.label (.disconnect reset)] ++ [.letGo k.label] =
      r.events ++ [.call k.label (.disconnect reset), .letGo k.label] := List.append_assoc _ _ _
  rw [disconnect_some h, hk, ← hevents]
  rfl

theorem disconnect_letGo {m : Manager (Register W) (Labelled κ) (Labelled ς)} {n : Normalized (Backend (Labelled κ))}
    {k : Labelled κ} (h : m.channel = some n) (hk : n.inner = .inr k) (reset : Bool) (r : Register W) :
    (m.disconnect reset r).2.2.LetGo [k.label] := by
  intro label hlabel
  rw [disconnect_labelled h hk, List.mem_singleton.mp hlabel]
  simp

/-- What came of tearing down before connecting does not matter. -/
theorem prepare_disconnected {settings : Settings} (hprevious : settings.disconnectPrevious = true)
    (m : Manager W κ ς) (w : W) :
    (m.disconnect true w).2.1.prepare settings (m.disconnect true w).2.2 = m.prepare settings w := by
  cases hch : m.channel with
  | none => simp [prepare, disconnect, hch]
  | some n => simp [prepare, disconnect, hch, hprevious]

theorem connect_disconnected [ChannelTraits κ] [CardSimulator W ς κ] {settings : Settings}
    (hprevious : settings.disconnectPrevious = true) (m : Manager W κ ς) (w : W) :
    (m.disconnect true w).2.1.connect settings (m.disconnect true w).2.2 = m.connect settings w := by
  unfold connect
  rw [prepare_disconnected hprevious]

end Manager

/-! ## Owners -/

/-- Once channels were let go of, the source does nothing to them and does not hand them out. -/
structure TerminalSource.Spares (labels : List Nat) (source : TerminalSource (Register W) (Labelled κ)) : Prop where
  terminals : ∀ r, r.LetGo labels → (source.terminals r).2.about labels = r.about labels
  connect : ∀ name r, r.LetGo labels → (source.connect name r).2.about labels = r.about labels ∧
    ∀ k, (source.connect name r).1 = .ok k → k.label ∉ labels

def RemoteConnector.Spares (labels : List Nat) (connector : RemoteConnector (Register W) (Labelled κ)) : Prop :=
  ∀ settings r, r.LetGo labels → (connector.connect settings r).2.about labels = r.about labels ∧
    ∀ k, (connector.connect settings r).1 = .ok k → k.label ∉ labels

theorem TerminalSource.spares_nil (source : TerminalSource (Register W) (Labelled κ)) : source.Spares [] := by
  constructor
  · intro r _
    rw [Register.about_nil, Register.about_nil]
  · intro name r _
    rw [Register.about_nil, Register.about_nil]
    exact ⟨rfl, by simp⟩

theorem RemoteConnector.spares_nil (connector : RemoteConnector (Register W) (Labelled κ)) : connector.Spares [] := by
  intro settings r _
  rw [Register.about_nil, Register.about_nil]
  exact ⟨rfl, by simp⟩

namespace Manager

/-- The collaborators of a manager will not hand out the channels. -/
structure Spares (labels : List Nat) (m : Manager (Register W) (Labelled κ) (Labelled ς)) : Prop where
  simulator : ∀ s, m.simulator = some s → s.label ∉ labels
  terminals : ∀ source, m.terminals = some source → source.Spares labels
  legacyTerminals : ∀ source, m.legacyTerminals = some source → source.Spares labels
  remote : ∀ connector, m.remote = some connector → connector.Spares labels

def HoldsOther (labels : List Nat) (own : Session → Prop) (m : Manager (Register W) (Labelled κ) (Labelled ς)) : Prop :=
  ∀ n, m.channel = some n → Other labels own n.inner

/-- The manager can not reach the channels, and nothing was done to them. -/
structure Leaves (labels : List Nat) (own : Session → Prop) (r : Register W)
    (o : Manager (Register W) (Labelled κ) (Labelled ς) × Register W) : Prop where
  spares : o.1.Spares labels
  other : o.1.HoldsOther labels own
  about : o.2.about labels = r.about labels

end Manager

/-- A channel that a call brings along is none of the channels, and a collaborator will not hand them out. -/
def ManagerRequest.Spares (labels : List Nat) : ManagerRequest (Register W) (Labelled κ) (Labelled ς) → Prop
  | .connectChannel k => k.label ∉ labels
  | .connectSimulator s | .withSimulator s => s.label ∉ labels
  | .withTerminals source | .withLegacyTerminals source => source.Spares labels
  | .withRemote connector => connector.Spares labels
  | .returnChannel n => ∀ k, n.inner = .inr k → k.label ∉ labels
  | _ => True

theorem ManagerRequest.spares_nil (request : ManagerRequest (Register W) (Labelled κ) (Labelled ς)) :
    request.Spares [] := by
  cases request with
  | withTerminals source => exact source.spares_nil
  | withLegacyTerminals source => exact source.spares_nil
  | withRemote connector => exact connector.spares_nil
  | _ => simp [Spares]

/-! ## Steps -/

namespace Manager

variable {labels : List Nat} {own : Session → Prop} {m m' m'' : Manager (Register W) (Labelled κ) (Labelled ς)}
  {r r' : Register W} {o o' : Manager (Register W) (Labelled κ) (Labelled ς) × Register W}

theorem holdsOther_of_none (hch : m.channel = none) : m.HoldsOther labels own := by
  intro n hn
  rw [hch] at hn
  cases hn

theorem Leaves.trans (first : Leaves labels own r o) (rest : Leaves labels own o.2 o') : Leaves labels own r o' :=
  ⟨rest.spares, rest.other, rest.about.trans first.about⟩

theorem Leaves.same (hm : m.Spares labels) (hch : m.HoldsOther labels own) (hr : r'.about labels = r.about labels) :
    Leaves labels own r (m, r') :=
  ⟨hm, hch, hr⟩

/-- Fields other than these do not count. -/
theorem Leaves.settle (h : Leaves labels own r (m', r')) (hch : m''.channel = m'.channel)
    (hsimulator : m''.simulator = m'.simulator) (hterminals : m''.terminals = m'.terminals)
    (hlegacy : m''.legacyTerminals = m'.legacyTerminals) (hremote : m''.remote = m'.remote) :
    Leaves labels own r (m'', r') := by
  refine ⟨⟨?_, ?_, ?_, ?_⟩, ?_, h.about⟩
  · rw [hsimulator]
    exact h.spares.simulator
  · rw [hterminals]
    exact h.spares.terminals
  · rw [hlegacy]
    exact h.spares.legacyTerminals
  · rw [hremote]
    exact h.spares.remote
  · unfold HoldsOther
    rw [hch]
    exact h.other

theorem Leaves.holding {n : Normalized (Backend (Labelled κ))} (hm : m.Spares labels) (hn : Other labels own n.inner)
    (hr : r'.about labels = r.about labels) : Leaves labels own r ({ m with channel := some n }, r') := by
  refine ⟨{ hm with }, ?_, hr⟩
  intro n' hn'
  cases hn'
  exact hn

theorem withChannel_leaves {α : Type}
    {call : Normalized (Backend (Labelled κ)) → Register W → Outcome (Normalized (Backend (Labelled κ))) (Register W) α}
    (hcall : ∀ n, Other labels own n.inner →
      Other labels own (call n r).2.1.inner ∧ (call n r).2.2.about labels = r.about labels)
    (hm : m.Spares labels) (hch : m.HoldsOther labels own) : Leaves labels own r (m.withChannel call r).2 := by
  rcases hc : m.channel with _ | n
  · simp only [withChannel, hc]
    exact .same hm hch rfl
  · obtain ⟨hother, habout⟩ := hcall n (hch n hc)
    simp only [withChannel, hc]
    exact .holding hm hother habout

variable [ChannelTraits κ] [CardChannel W κ] [Network W] [Host W]

omit [ChannelTraits κ] in
theorem releaseHeld_leaves (hch : m.HoldsOther labels own) (r : Register W) :
    (m.releaseHeld r).about labels = r.about labels := by
  rcases hc : m.channel with _ | n
  · simp only [releaseHeld, hc]
  · simp only [releaseHeld, hc]
    exact backend_release (hch n hc).label_notMem r

theorem send_leaves (hown : Lasting W own) (hm : m.Spares labels) (hch : m.HoldsOther labels own) (command : Command)
    (r : Register W) : Leaves labels own r (m.send command r).2 := by
  rcases hc : m.channel with _ | n
  · rw [send_none hc]
    exact .same hm hch rfl
  · obtain ⟨hother, habout⟩ := Normalized.transmit_other hown (hch n hc) command r
    have hheld : Leaves labels own r (_, (CardChannel.transmit command n r).2.2) := .holding hm hother habout
    rw [send_some hc]
    exact hheld.settle rfl rfl rfl rfl rfl

theorem selectApplet_leaves (hown : Lasting W own) (hm : m.Spares labels) (hch : m.HoldsOther labels own)
    (r : Register W) : Leaves labels own r (m.selectApplet r).2 := by
  cases haid : m.aid with
  | none =>
    rw [selectApplet_none haid]
    exact .same hm hch rfl
  | some aid =>
    rw [selectApplet_some haid]
    exact send_leaves hown hm hch _ r

theorem selectIfConfigured_leaves (hown : Lasting W own) (hm : m.Spares labels) (hch : m.HoldsOther labels own)
    (r : Register W) : Leaves labels own r (m.selectIfConfigured r).2 := by
  cases haid : m.aid with
  | none =>
    rw [selectIfConfigured_none haid]
    exact .same hm hch rfl
  | some aid =>
    have hsend := send_leaves hown hm hch (.selectAid aid) r
    rw [selectIfConfigured_some haid]
    rcases heq : m.send (.selectAid aid) r with ⟨e | response, m', r'⟩
    · rw [heq] at hsend
      exact hsend
    · rw [heq] at hsend
      exact hsend.settle rfl rfl rfl rfl rfl

theorem adopt_leaves {k : Backend (Labelled κ)} (hk : Other labels own k) (hm : m.Spares labels)
    (hch : m.HoldsOther labels own) (r : Register W) : Leaves labels own r (m.adopt k r).2 := by
  cases hwrapped : ChannelTraits.isWrapped k with
  | true =>
    rw [adopt_wrapped hwrapped]
    exact .same hm hch (backend_release hk.label_notMem r)
  | false =>
    rw [adopt_unwrapped hwrapped]
    exact .holding hm hk (releaseHeld_leaves hch r)

theorem adoptAndSelect_leaves (hown : Lasting W own) {k : Backend (Labelled κ)} (hk : Other labels own k)
    (hm : m.Spares labels) (hch : m.HoldsOther labels own) (doSelect : Bool) (r : Register W) :
    Leaves labels own r (m.adoptAndSelect k doSelect r).2 := by
  have hadopt := adopt_leaves hk hm hch r
  unfold adoptAndSelect
  rcases heq : m.adopt k r with ⟨e | ⟨⟩, m₁, r₁⟩
  · rw [heq] at hadopt
    exact hadopt
  · rw [heq] at hadopt
    cases doSelect with
    | false => exact hadopt
    | true =>
      have hselect := selectIfConfigured_leaves hown hadopt.spares hadopt.other r₁
      simp only [if_true]
      rcases heq' : m₁.selectIfConfigured r₁ with ⟨e | ⟨⟩, m₂, r₂⟩
      · rw [heq'] at hselect
        exact hadopt.trans hselect
      · rw [heq'] at hselect
        exact hadopt.trans hselect

theorem disconnect_leaves (hown : Lasting W own) (hm : m.Spares labels) (hch : m.HoldsOther labels own) (reset : Bool)
    (r : Register W) : Leaves labels own r (m.disconnect reset r).2 := by
  refine ⟨?_, ?_, ?_⟩
  · rw [disconnect_after]
    exact { hm with }
  · rw [disconnect_after]
    exact holdsOther_of_none rfl
  · rcases hc : m.channel with _ | n
    · simp only [disconnect, hc]
    · obtain ⟨hother, habout⟩ := backend_request hown (hch n hc) (.disconnect reset) r
      simp only [disconnect, hc]
      exact (backend_release hother.label_notMem _).trans habout

/-! ## Connecting -/

/-- What a collaborator opened is none of the channels, and nothing was done to those. -/
def Opened (labels : List Nat) {ε : Type} (r : Register W) (opened : Except ε (Labelled κ) × Register W) : Prop :=
  opened.2.about labels = r.about labels ∧ ∀ k, opened.1 = .ok k → k.label ∉ labels

omit [ChannelTraits κ] [CardChannel W κ] [Network W] [Host W] in
theorem connectTerminal_opened {source : Option (TerminalSource (Register W) (Labelled κ))}
    (hsource : ∀ s, source = some s → s.Spares labels) (hgone : r.LetGo labels) (settings : Settings) (byName : Bool) :
    Opened labels r (connectTerminal source settings byName r) := by
  cases source with
  | none => exact ⟨rfl, by simp [connectTerminal]⟩
  | some source =>
    obtain ⟨hterminals, hconnect⟩ := hsource source rfl
    have hlist := hterminals r hgone
    simp only [connectTerminal]
    rcases heq : source.terminals r with ⟨e | terminals, r₁⟩
    · rw [heq] at hlist
      exact ⟨hlist, by simp⟩
    · rw [heq] at hlist
      cases hchoose : Terminal.choose settings byName terminals with
      | error e =>
        simp only [hchoose]
        exact ⟨hlist, by simp⟩
      | ok t =>
        obtain ⟨habout, hother⟩ := hconnect t.name r₁ (hgone.of_about hlist)
        simp only [hchoose]
        refine ⟨habout.trans hlist, ?_⟩
        intro k hk
        rcases hopened : (source.connect t.name r₁).1 with e | k'
        · rw [hopened] at hk
          cases hk
        · rw [hopened] at hk
          cases hk
          exact hother k hopened

omit [ChannelTraits κ] [CardChannel W κ] [Network W] [Host W] in
theorem connectLegacy_opened {source : Option (TerminalSource (Register W) (Labelled κ))}
    (hsource : ∀ s, source = some s → s.Spares labels) (hgone : r.LetGo labels) (settings : Settings) :
    (connectLegacy source settings r).2.about labels = r.about labels ∧
      ∀ k, (connectLegacy source settings r).1 = .ok (some k) → k.label ∉ labels := by
  cases source with
  | none => exact ⟨rfl, by simp [connectLegacy]⟩
  | some source =>
    obtain ⟨hterminals, hconnect⟩ := hsource source rfl
    have hlist := hterminals r hgone
    simp only [connectLegacy]
    rcases heq : source.terminals r with ⟨e | terminals, r₁⟩
    · rw [heq] at hlist
      exact ⟨hlist, by simp⟩
    · rw [heq] at hlist
      rcases hchoose : Terminal.chooseSimulated settings terminals with e | _ | t
      · simp only [hchoose]
        exact ⟨hlist, by simp⟩
      · simp only [hchoose]
        exact ⟨hlist, by simp⟩
      · obtain ⟨habout, hother⟩ := hconnect t.name r₁ (hgone.of_about hlist)
        simp only [hchoose]
        refine ⟨habout.trans hlist, ?_⟩
        intro k hk
        rcases hopened : (source.connect t.name r₁).1 with e | k'
        · rw [hopened] at hk
          cases hk
        · rw [hopened] at hk
          cases hk
          exact hother k hopened

omit [ChannelTraits κ] [CardChannel W κ] [Network W] [Host W] in
theorem connectRemote_opened {connector : Option (RemoteConnector (Register W) (Labelled κ))}
    (hconnector : ∀ c, connector = some c → c.Spares labels) (hgone : r.LetGo labels) (settings : Settings) :
    Opened labels r (connectRemote connector settings r) := by
  cases connector with
  | none => exact ⟨rfl, by simp [connectRemote]⟩
  | some connector => exact hconnector connector rfl settings r hgone

/-- A channel that a collaborator opened in the meantime is held like any other. -/
theorem adoptOpened_leaves (hown : Lasting W own) (hm : m.Spares labels) (hch : m.HoldsOther labels own)
    {k : Labelled κ} (hk : k.label ∉ labels) (doSelect : Bool) (hr : r'.about labels = r.about labels) :
    Leaves labels own r (m.adoptAndSelect (.inr k) doSelect r').2 := by
  have hopened : Leaves labels own r (m, r') := .same hm hch hr
  exact hopened.trans (adoptAndSelect_leaves hown (k := .inr k) hk hm hch doSelect r')

variable [CardSimulator W ς κ]

theorem openSimulator_leaves (hown : Lasting W own) (hm : m.Spares labels) (hch : m.HoldsOther labels own)
    (settings : Settings) (doSelect : Bool) (r : Register W) :
    Leaves labels own r (m.openSimulator settings doSelect r).2 := by
  -- what is left of the manager when its simulator is used up
  have hunused : ∀ response, Leaves labels own r
      (({ m with simulator := none, selectResponse := response } :
        Manager (Register W) (Labelled κ) (Labelled ς)), r) :=
    fun response => ⟨{ hm with simulator := by simp }, hch, rfl⟩
  unfold openSimulator
  split
  · exact .same hm hch rfl
  · exact .same hm hch rfl
  · next aid simulator _ hsimulator =>
    have hlabel := hm.simulator simulator hsimulator
    simp only
    rcases heq : CardSimulator.install aid (settings.installData.getD []) simulator r with ⟨e | ⟨⟩, s₁, r₁⟩
    · have hr : r₁.about labels = r.about labels := congrArg (fun o => o.2.2.about labels) heq.symm
      exact ⟨(hunused m.selectResponse).spares, hch, hr⟩
    · have hr : r₁.about labels = r.about labels := congrArg (fun o => o.2.2.about labels) heq.symm
      have hs : s₁.label = simulator.label := congrArg (fun o => o.2.1.label) heq.symm
      cases doSelect with
      | false =>
        have hchannel : (CardSimulator.intoChannel s₁ r₁ : Labelled κ × Register W).1.label ∉ labels := hs ▸ hlabel
        exact adoptOpened_leaves hown (hunused m.selectResponse).spares hch hchannel false hr
      | true =>
        simp only [if_true]
        rcases heq' : CardSimulator.select aid s₁ r₁ with ⟨e | response, s₂, r₂⟩
        · have hr' : r₂.about labels = r₁.about labels := congrArg (fun o => o.2.2.about labels) heq'.symm
          exact ⟨(hunused m.selectResponse).spares, hch, hr'.trans hr⟩
        · have hr' : r₂.about labels = r₁.about labels := congrArg (fun o => o.2.2.about labels) heq'.symm
          have hs' : s₂.label = s₁.label := congrArg (fun o => o.2.1.label) heq'.symm
          have hchannel : (CardSimulator.intoChannel s₂ r₂ : Labelled κ × Register W).1.label ∉ labels := by
            change s₂.label ∉ labels
            rw [hs', hs]
            exact hlabel
          exact adoptOpened_leaves hown (hunused (some response)).spares hch hchannel false (hr'.trans hr)

theorem openCard_leaves (hown : Lasting W own) {settings : Settings} (hnew : own { config := settings.virtualCard })
    (hm : m.Spares labels) (hch : m.HoldsOther labels own) (hgone : r.LetGo labels) :
    Leaves labels own r (m.openCard settings r).2 := by
  cases hkind : settings.kind with
  | physical =>
    obtain ⟨habout, hother⟩ := connectTerminal_opened hm.terminals hgone settings true
    simp only [openCard, hkind]
    rcases heq : connectTerminal m.terminals settings true r with ⟨e | channel, r'⟩
    · rw [heq] at habout
      exact .same hm hch habout
    · rw [heq] at habout hother
      exact adoptOpened_leaves hown hm hch (hother channel rfl) _ habout
  | physicalDirect =>
    obtain ⟨habout, hother⟩ := connectTerminal_opened hm.terminals hgone settings false
    simp only [openCard, hkind]
    rcases heq : connectTerminal m.terminals settings false r with ⟨e | channel, r'⟩
    · rw [heq] at habout
      exact .same hm hch habout
    · rw [heq] at habout hother
      exact adoptOpened_leaves hown hm hch (hother channel rfl) _ habout
  | legacySimulator =>
    obtain ⟨habout, hother⟩ := connectLegacy_opened hm.legacyTerminals hgone settings
    simp only [openCard, hkind]
    rcases heq : connectLegacy m.legacyTerminals settings r with ⟨e | _ | channel, r'⟩
    · rw [heq] at habout
      exact .same hm hch habout
    · rw [heq] at habout
      exact ⟨{ hm with }, holdsOther_of_none rfl, (releaseHeld_leaves hch r').trans habout⟩
    · rw [heq] at habout hother
      exact adoptOpened_leaves hown hm hch (hother channel rfl) _ habout
  | localSimulator =>
    simp only [openCard, hkind]
    exact openSimulator_leaves hown hm hch settings _ r
  | remoteSimulator =>
    simp only [openCard, hkind]
    exact .same hm hch rfl
  | remote =>
    obtain ⟨habout, hother⟩ := connectRemote_opened hm.remote hgone settings
    simp only [openCard, hkind]
    rcases heq : connectRemote m.remote settings r with ⟨e | channel, r'⟩
    · rw [heq] at habout
      exact .same hm hch habout
    · rw [heq] at habout hother
      exact adoptOpened_leaves hown hm hch (hother channel rfl) _ habout
  | virtualCard =>
    simp only [openCard, hkind]
    exact adoptAndSelect_leaves hown (k := .inl _) hnew hm hch _ r

omit [CardSimulator W ς κ] in
theorem prepare_leaves (hown : Lasting W own) (hm : m.Spares labels) (hch : m.HoldsOther labels own)
    (settings : Settings) (r : Register W) : Leaves labels own r (m.prepare settings r) := by
  have hnamed : Leaves labels own r
      (({ m with aid := m.aid.or settings.aid } : Manager (Register W) (Labelled κ) (Labelled ς)), r) :=
    (Leaves.same hm hch rfl).settle rfl rfl rfl rfl rfl
  simp only [prepare]
  split
  · exact (disconnect_leaves hown hnamed.spares hnamed.other true r).settle rfl rfl rfl rfl rfl
  · exact hnamed.settle rfl rfl rfl rfl rfl

theorem connect_leaves (hown : Lasting W own) {settings : Settings} (hnew : own { config := settings.virtualCard })
    (hm : m.Spares labels) (hch : m.HoldsOther labels own) (hgone : r.LetGo labels) :
    Leaves labels own r (m.connect settings r).2 := by
  have hprepare := prepare_leaves hown hm hch settings r
  have hopen := hprepare.trans
    (openCard_leaves hown hnew hprepare.spares hprepare.other (hgone.of_about hprepare.about))
  unfold connect
  rcases heq : (m.prepare settings r).1.openCard settings (m.prepare settings r).2 with ⟨e | found, m', r'⟩
  · rw [heq] at hopen
    simp only [heq]
    exact hopen.settle rfl rfl rfl rfl rfl
  · rw [heq] at hopen
    simp only [heq]
    exact hopen.settle rfl rfl rfl rfl rfl

omit [CardSimulator W ς κ] in
theorem connectChannel_leaves {k : Labelled κ} (hk : k.label ∉ labels) (hm : m.Spares labels)
    (hch : m.HoldsOther labels own) (r : Register W) : Leaves labels own r (m.connectChannel k r).2 := by
  have hadopt := adopt_leaves (k := .inr k) hk hm hch r
  unfold connectChannel
  rcases heq : m.adopt (.inr k) r with ⟨e | ⟨⟩, m', r'⟩
  · rw [heq] at hadopt
    exact hadopt
  · rw [heq] at hadopt
    exact hadopt.settle rfl rfl rfl rfl rfl

theorem connectSimulator_leaves (hown : Lasting W own) {s : Labelled ς} (hs : s.label ∉ labels) (hm : m.Spares labels)
    (hch : m.HoldsOther labels own) (r : Register W) : Leaves labels own r (m.connectSimulator s r).2 := by
  have hadopt := adopt_leaves (k := .inr (CardSimulator.intoChannel s r).1) hs hm hch (CardSimulator.intoChannel s r).2
  have hopened : Leaves labels own r (m, (CardSimulator.intoChannel s r : Labelled κ × Register W).2) :=
    .same hm hch rfl
  have hleaves := hopened.trans hadopt
  unfold connectSimulator
  rcases heq : m.adopt (.inr (CardSimulator.intoChannel s r).1) (CardSimulator.intoChannel s r).2 with
    ⟨e | ⟨⟩, m', r'⟩
  · rw [heq] at hleaves
    simp only [heq]
    exact hleaves
  · rw [heq] at hleaves
    have hconnected : Leaves labels own r ({ m' with lastKind := some .localSimulator, state := .connected }, r') :=
      hleaves.settle rfl rfl rfl rfl rfl
    simp only [heq]
    split
    · exact hconnected.trans (selectIfConfigured_leaves hown hconnected.spares hconnected.other r')
    · exact hconnected

omit [ChannelTraits κ] [CardChannel W κ] [Network W] [Host W] [CardSimulator W ς κ] in
theorem changeOption_leaves (d : OptionChange) (h : Leaves labels own r (m', r')) :
    Leaves labels own r (m'.changeOption d, r') := by
  refine ⟨{ h.spares with }, ?_, h.about⟩
  intro n hn
  obtain ⟨n', hn', rfl⟩ := Option.map_eq_some_iff.mp hn
  exact h.other n' hn'

omit [ChannelTraits κ] [CardChannel W κ] [Network W] [Host W] [CardSimulator W ς κ] in
theorem changes_leaves (changes : List OptionChange) (h : Leaves labels own r (m', r')) :
    Leaves labels own r (changes.foldl (fun m d => m.changeOption d) m', r') := by
  induction changes generalizing m' with
  | nil => exact h
  | cons d changes ih => exact ih (changeOption_leaves d h)

end Manager

/-! ## Calls -/

namespace ManagerRequest

variable {labels : List Nat} {own : Session → Prop} {m : Manager (Register W) (Labelled κ) (Labelled ς)}
  {r : Register W} {request : ManagerRequest (Register W) (Labelled κ) (Labelled ς)}
  [ChannelTraits κ] [CardChannel W κ] [Network W] [Host W] [CardSimulator W ς κ]

open Manager (HoldsOther Leaves)

theorem perform_leaves (hown : Lasting W own)
    (hnew : ∀ settings, request = .connect settings → own { config := settings.virtualCard })
    (hrequest : request.Spares labels) (hm : m.Spares labels) (hch : m.HoldsOther labels own) (hgone : r.LetGo labels) :
    Leaves labels own r (request.perform m r).2 := by
  have hsame : Leaves labels own r (m, r) := .same hm hch rfl
  have hatr : Leaves labels own r (m.atr r).2 :=
    Manager.withChannel_leaves (fun n hn => Normalized.request_other hown hn (.channel .atr) r) hm hch
  have hprotocol : Leaves labels own r (m.protocol r).2 :=
    Manager.withChannel_leaves (fun n hn => Normalized.request_other hown hn (.channel .protocol) r) hm hch
  cases request with
  | connect settings => exact Manager.connect_leaves hown (hnew settings rfl) hm hch hgone
  | connectChannel k => exact Manager.connectChannel_leaves hrequest hm hch r
  | connectSimulator s => exact Manager.connectSimulator_leaves hown hrequest hm hch r
  | withTerminals source =>
    refine ⟨{ hm with terminals := ?_ }, hch, rfl⟩
    rintro source' ⟨⟩
    exact hrequest
  | withLegacyTerminals source =>
    refine ⟨{ hm with legacyTerminals := ?_ }, hch, rfl⟩
    rintro source' ⟨⟩
    exact hrequest
  | withSimulator s =>
    refine ⟨{ hm with simulator := ?_ }, hch, rfl⟩
    rintro s' ⟨⟩
    exact hrequest
  | withRemote connector =>
    refine ⟨{ hm with remote := ?_ }, hch, rfl⟩
    rintro connector' ⟨⟩
    exact hrequest
  | withOptions options => exact hsame.settle rfl rfl rfl rfl rfl
  | setAid aid => exact hsame.settle rfl rfl rfl rfl rfl
  | setDoSelect doSelect => exact hsame.settle rfl rfl rfl rfl rfl
  | change changes => exact Manager.changes_leaves changes hsame
  | transmit command =>
    by_cases hstate : m.state = .connected
    · simp only [perform, Manager.transmit, hstate, if_true]
      exact Manager.send_leaves hown hm hch command r
    · simp only [perform, Manager.transmit, hstate, if_false]
      exact hsame
  | selectApplet => exact Manager.selectApplet_leaves hown hm hch r
  | disconnect reset => exact Manager.disconnect_leaves hown hm hch reset r
  | takeChannel => exact ⟨{ hm with }, Manager.holdsOther_of_none rfl, rfl⟩
  | returnChannel n => exact .same hm hch (backend_release hrequest r)
  | onChannel request =>
    exact Manager.withChannel_leaves (fun n hn => Normalized.request_other hown hn request r) hm hch
  | atr => exact hatr
  | reset => exact hatr
  | protocol => exact hprotocol

end ManagerRequest

/-! ## Runs -/

namespace Manager

variable {labels : List Nat} {own : Session → Prop} {m : Manager (Register W) (Labelled κ) (Labelled ς)}
  {r : Register W} {requests : List (ManagerRequest (Register W) (Labelled κ) (Labelled ς))}

theorem spares_nil (m : Manager (Register W) (Labelled κ) (Labelled ς)) : m.Spares [] := by
  refine ⟨?_, ?_, ?_, ?_⟩
  · simp
  · intro source _
    exact source.spares_nil
  · intro source _
    exact source.spares_nil
  · intro connector _
    exact connector.spares_nil

variable [ChannelTraits κ] [CardChannel W κ] [Network W] [Host W] [CardSimulator W ς κ]

theorem run_leaves (hown : Lasting W own)
    (hnew : ∀ settings, .connect settings ∈ requests → own { config := settings.virtualCard })
    (hrequests : ∀ request ∈ requests, request.Spares labels) (hm : m.Spares labels) (hch : m.HoldsOther labels own)
    (hgone : r.LetGo labels) : Leaves labels own r (m.run r requests) := by
  induction requests generalizing m r with
  | nil => exact .same hm hch rfl
  | cons request requests ih =>
    have hstep : Leaves labels own r (request.perform m r).2 := by
      apply request.perform_leaves hown ?_ (hrequests _ List.mem_cons_self) hm hch hgone
      rintro settings rfl
      exact hnew settings List.mem_cons_self
    have hrest : Leaves labels own (request.perform m r).2.2
        ((request.perform m r).2.1.run (request.perform m r).2.2 requests) := by
      apply ih
      · intro settings hsettings
        exact hnew settings (List.mem_cons_of_mem _ hsettings)
      · intro request' hrequest'
        exact hrequests request' (List.mem_cons_of_mem _ hrequest')
      · exact hstep.spares
      · exact hstep.other
      · exact hgone.of_about hstep.about
    exact hstep.trans hrest

/-- Nothing is done to channels that were let go of, and they are not held again. -/
theorem run_letGo (hch : m.channel = none) (hm : m.Spares labels) (hgone : r.LetGo labels)
    (hrequests : ∀ request ∈ requests, request.Spares labels) :
    (m.run r requests).2.about labels = r.about labels ∧
      ∀ n k, (m.run r requests).1.channel = some n → n.inner = .inr k → k.label ∉ labels := by
  have hleaves : Leaves labels (fun _ => True) r (m.run r requests) := by
    apply run_leaves
    · intro s _ request r
      trivial
    · intro settings _
      trivial
    · exact hrequests
    · exact hm
    · exact holdsOther_of_none hch
    · exact hgone
  refine ⟨hleaves.about, ?_⟩
  intro n k hn hk
  exact (hleaves.other n hn).label_notMem k hk

/-- A session that is held after calls on a manager without a channel was made by one of them. -/
theorem run_session (hch : m.channel = none) (r : Register W)
    (requests : List (ManagerRequest (Register W) (Labelled κ) (Labelled ς))) {n : Normalized (Backend (Labelled κ))}
    {s : Session} (hn : (m.run r requests).1.channel = some n) (hs : n.inner = .inl s) :
    ∃ settings, .connect settings ∈ requests ∧ Becomes (Register W) { config := settings.virtualCard } s := by
  let own (s : Session) : Prop :=
    ∃ settings, .connect settings ∈ requests ∧ Becomes (Register W) { config := settings.virtualCard } s
  have hown : Lasting W own := by
    rintro s ⟨settings, hsettings, hs⟩ request r
    exact ⟨settings, hsettings, hs.call request r⟩
  have hleaves : Leaves [] own r (m.run r requests) := by
    apply run_leaves hown
    · intro settings hsettings
      exact ⟨settings, hsettings, .refl⟩
    · intro request _
      exact request.spares_nil
    · exact m.spares_nil
    · exact holdsOther_of_none hch
    · intro label hlabel
      cases hlabel
  have hother := hleaves.other n hn
  rw [hs] at hother
  exact hother

/-- Disconnecting makes one call on the channel that is held, with the flag, and answers what came of it. The channel
is let go of whatever that was, and nothing is done to it afterwards; a session that is held then is a new one.
Without a channel nothing is called. Connecting with a teardown is disconnecting first, and what came of that does
not matter. -/
theorem teardown_is_final (m : Manager (Register W) (Labelled κ) (Labelled ς)) (reset : Bool) (r : Register W) :
    let (result, m', r') := m.disconnect reset r
    m' = { m with state := .disconnected, channel := none } ∧
    (m.channel = none → result = .ok () ∧ r' = r) ∧
    (∀ n k, m.channel = some n → n.inner = .inr k →
      let (outcome, k', w') := CardChannel.disconnect reset k.inner r.world
      result = outcome.mapError .card ∧
      r' = ⟨CardChannel.release k' w', r.events ++ [.call k.label (.disconnect reset), .letGo k.label]⟩ ∧
      (m.Spares [k.label] → ∀ requests, (∀ request ∈ requests, request.Spares [k.label]) →
        let (later, r'') := m'.run r' requests
        r''.about [k.label] = r'.about [k.label] ∧
          ∀ n' k', later.channel = some n' → n'.inner = .inr k' → k'.label ≠ k.label)) ∧
    (∀ n s, m.channel = some n → n.inner = .inl s →
      result = .ok () ∧ r' = (CardChannel.disconnect reset s r).2.2 ∧ r'.events = r.events ∧
      ∀ requests n' s', (m'.run r' requests).1.channel = some n' → n'.inner = .inl s' →
        ∃ settings, .connect settings ∈ requests ∧ Becomes (Register W) { config := settings.virtualCard } s') ∧
    (reset = true → ∀ settings, settings.disconnectPrevious = true →
      m.connect settings r = m'.connect settings r' ∧
        ∀ rest, m.run r (.connect settings :: rest) = m'.run r' (.connect settings :: rest)) := by
  have hafter := disconnect_after reset m r
  have hconnect : reset = true → ∀ settings, settings.disconnectPrevious = true →
      m.connect settings r = (m.disconnect reset r).2.1.connect settings (m.disconnect reset r).2.2 := by
    rintro rfl settings hprevious
    exact (connect_disconnected hprevious m r).symm
  rcases heq : m.disconnect reset r with ⟨result, m', r'⟩
  rw [heq] at hafter hconnect
  have hgone : m'.channel = none := congrArg Manager.channel hafter
  refine ⟨hafter, ?_, ?_, ?_, ?_⟩
  · intro hch
    rw [disconnect_none hch] at heq
    cases heq
    exact ⟨rfl, rfl⟩
  · intro n k hch hk
    have hletGo := disconnect_letGo hch hk reset r
    rw [disconnect_labelled hch hk] at heq hletGo
    cases heq
    refine ⟨rfl, rfl, ?_⟩
    intro hm requests hrequests
    have hspares : Spares [k.label]
        ({ m with state := .disconnected, channel := none } : Manager (Register W) (Labelled κ) (Labelled ς)) :=
      { hm with }
    obtain ⟨habout, hother⟩ := run_letGo rfl hspares hletGo hrequests
    refine ⟨habout, ?_⟩
    intro n' k' hn' hk'
    exact List.ne_of_not_mem_cons (hother n' k' hn' hk')
  · intro n s hch hs
    rw [disconnect_session hch hs] at heq
    cases heq
    refine ⟨rfl, rfl, s.shut_events r, ?_⟩
    intro requests n' s' hn' hs'
    exact run_session hgone _ requests hn' hs'
  · intro hreset settings hprevious
    have hsame := hconnect hreset settings hprevious
    refine ⟨hsame, ?_⟩
    intro rest
    simp only [run, ManagerRequest.perform, hsame]

end Manager

/-! ## A teardown that fails -/

/-- Gives all channels of the source one label. -/
def Register.source (label : Nat) (source : TerminalSource W κ) : TerminalSource (Register W) (Labelled κ) where
  terminals r :=
    let (listed, world) := source.terminals r.world
    (listed, { r with world })
  connect name r :=
    let (opened, world) := source.connect name r.world
    (opened.map fun k => ⟨label, k⟩, { r with world })

theorem Register.source_spares {label : Nat} {labels : List Nat} (h : label ∉ labels) (source : TerminalSource W κ) :
    (Register.source label source).Spares labels := by
  constructor
  · intro r _
    rfl
  · intro name r _
    refine ⟨rfl, ?_⟩
    intro k hk
    simp only [Register.source] at hk
    rcases hopened : (source.connect name r.world).1 with e | k'
    · rw [hopened] at hk
      cases hk
    · rw [hopened] at hk
      cases hk
      exact h

namespace Manager

open Scripted (World AnyChannel AnySimulator terminalSource)

def stubbornCard : Labelled AnyChannel := ⟨7, .inr (.inr (.inl { disconnectFailure := some .notConnected }))⟩

def holdingStubbornCard : Manager (Register World) (Labelled AnyChannel) (Labelled AnySimulator) where
  state := .connected
  channel := some { inner := .inr stubbornCard, options := {} }
  terminals := some (Register.source 8 (terminalSource (.ok [⟨"slot", true⟩]) none fun w => (.inr (.inl {}), w)))

def freshConnection : Settings where
  disconnectPrevious := true
  doSelect := false

def callsAfterwards : List (ManagerRequest (Register World) (Labelled AnyChannel) (Labelled AnySimulator)) :=
  [.connect freshConnection, .atr, .disconnect false, .connectChannel ⟨9, stubbornCard.inner⟩, .protocol]

theorem teardown_is_final_stubborn :
    let m := holdingStubbornCard
    let (result, m', r') := m.disconnect true ({ world := {} } : Register World)
    let (later, r'') := m'.run r' callsAfterwards
    result = .error (.card .notConnected) ∧ m'.state = .disconnected ∧
      r''.about [7] = [.call 7 (.disconnect true), .letGo 7] ∧
      r''.about [8, 9] = [.call 8 .atr, .call 8 (.disconnect false), .letGo 8, .call 9 .protocol] ∧
      later.isConnected = true ∧
      (m.connect freshConnection { world := {} }).1 = .ok true := by
  have hspares : holdingStubbornCard.Spares [7] := by
    refine ⟨?_, ?_, ?_, ?_⟩
    · rintro s ⟨⟩
    · rintro source ⟨⟩
      exact Register.source_spares (by decide) _
    · rintro source ⟨⟩
    · rintro connector ⟨⟩
  have hcalls : ∀ request ∈ callsAfterwards, request.Spares [7] := by
    simp [callsAfterwards, ManagerRequest.Spares]
  obtain ⟨-, -, hheld, -, hconnect⟩ := teardown_is_final holdingStubbornCard true { world := {} }
  obtain ⟨hresult, hregister, hfinal⟩ := hheld _ stubbornCard rfl rfl
  obtain ⟨habout, -⟩ := hfinal hspares callsAfterwards hcalls
  refine ⟨hresult, rfl, habout, rfl, rfl, ?_⟩
  exact congrArg (fun o => o.1) (hconnect rfl freshConnection rfl).1

end Manager

end

end CardLink
