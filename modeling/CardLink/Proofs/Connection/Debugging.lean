import CardLink.Proofs.Connection.SelectionAnswer
import CardLink.Proofs.Normalization.Debugging
import CardLink.Proofs.VirtualCard.Journaled

/-!
# Managers without debugging

A manager passes its debug flag on to the channel it holds, and that channel alone looks at it. So each step of a
manager comes to the same without debugging, but for the flag and the log. A step that exchanges nothing over the
held channel puts down calls aside only.
-/

namespace CardLink

open VirtualCard (Network)
open OutwardCall (Aside)
open Journal (Adds)

/-! ## Collaborators -/

section

variable {W κ ς : Type}

/-- The channels that a manager holds, its own and those of others, cannot tell whether there is a debug log. -/
theorem backend_oblivious [CardChannel W κ] [Network W] : Oblivious W (Backend (Outside κ)) :=
  VirtualCard.oblivious_session.sum Outside.oblivious

theorem install_unaware [CardSimulator W ς κ] (aid data : Bytes) (s : Outside ς) :
    Unaware (W := W) Aside (CardSimulator.install aid data s) :=
  fun r => ⟨congrArg (fun r => (_, _, r)) (Journal.quiet_called r _ _), .called trivial r _⟩

theorem select_unaware [CardSimulator W ς κ] (aid : Bytes) (s : Outside ς) :
    Unaware (W := W) Aside (CardSimulator.select aid s) :=
  fun r => ⟨congrArg (fun r => (_, _, r)) (Journal.quiet_called r _ _), .called trivial r _⟩

theorem intoChannel_unaware [CardSimulator W ς κ] (s : Outside ς) :
    Unaware (W := W) Aside (CardSimulator.intoChannel s : Journal W → Outside κ × Journal W) :=
  called_unaware trivial (CardSimulator.intoChannel s.inner) Outside.mk

/-- A source whose calls are put down. -/
def TerminalSource.outside (source : TerminalSource W κ) : TerminalSource (Journal W) (Outside κ) where
  terminals r :=
    let (outcome, world) := source.terminals r.world
    (outcome, r.called world .terminals)
  connect name r :=
    let (outcome, world) := source.connect name r.world
    (outcome.map .mk, r.called world (.connect name))

def RemoteConnector.outside (connector : RemoteConnector W κ) : RemoteConnector (Journal W) (Outside κ) where
  connect settings r :=
    let (outcome, world) := connector.connect settings r.world
    (outcome.map .mk, r.called world (.connectRemote settings))

structure TerminalSource.Blind (source : TerminalSource (Journal W) κ) : Prop where
  terminals : Unaware Aside source.terminals
  connect : ∀ name, Unaware Aside (source.connect name)

def RemoteConnector.Blind (connector : RemoteConnector (Journal W) κ) : Prop :=
  ∀ settings, Unaware Aside (connector.connect settings)

theorem TerminalSource.outside_blind (source : TerminalSource W κ) : source.outside.Blind where
  terminals := called_unaware trivial source.terminals id
  connect name := called_unaware trivial (source.connect name) (Except.map Outside.mk)

theorem RemoteConnector.outside_blind (connector : RemoteConnector W κ) : connector.outside.Blind :=
  fun settings => called_unaware trivial (connector.connect settings) (Except.map Outside.mk)

end

/-! ## Managers -/

section

variable {W κ ς α : Type}

namespace Manager

/-- What the manager is without debugging. -/
def quiet (m : Manager W κ ς) : Manager W κ ς :=
  { m with options := m.options.quiet, channel := m.channel.map Normalized.quiet }

@[simp]
theorem quiet_state (m : Manager W κ ς) : m.quiet.state = m.state := rfl

@[simp]
theorem quiet_channel (m : Manager W κ ς) : m.quiet.channel = m.channel.map Normalized.quiet := rfl

@[simp]
theorem quiet_aid (m : Manager W κ ς) : m.quiet.aid = m.aid := rfl

@[simp]
theorem quiet_doSelect (m : Manager W κ ς) : m.quiet.doSelect = m.doSelect := rfl

@[simp]
theorem quiet_simulator (m : Manager W κ ς) : m.quiet.simulator = m.simulator := rfl

@[simp]
theorem quiet_terminals (m : Manager W κ ς) : m.quiet.terminals = m.terminals := rfl

@[simp]
theorem quiet_legacyTerminals (m : Manager W κ ς) : m.quiet.legacyTerminals = m.legacyTerminals := rfl

@[simp]
theorem quiet_remote (m : Manager W κ ς) : m.quiet.remote = m.remote := rfl

def sources (m : Manager W κ ς) :
    Option (TerminalSource W κ) × Option (TerminalSource W κ) × Option (RemoteConnector W κ) :=
  (m.terminals, m.legacyTerminals, m.remote)

/-- None of the collaborators can tell whether there is a debug log. -/
structure Blind (m : Manager (Journal W) κ ς) : Prop where
  terminals : ∀ source, m.terminals = some source → source.Blind
  legacyTerminals : ∀ source, m.legacyTerminals = some source → source.Blind
  remote : ∀ connector, m.remote = some connector → connector.Blind

theorem Blind.of_sources {m m' : Manager (Journal W) κ ς} (hm : m.Blind) (h : m'.sources = m.sources) : m'.Blind := by
  simp only [sources, Prod.mk.injEq] at h
  obtain ⟨hterminals, hlegacy, hremote⟩ := h
  refine ⟨?_, ?_, ?_⟩
  · rw [hterminals]
    exact hm.terminals
  · rw [hlegacy]
    exact hm.legacyTerminals
  · rw [hremote]
    exact hm.remote

end Manager

def Managed.quiet (o : Managed (Journal W) κ ς α) : Managed (Journal W) κ ς α := (o.1, o.2.1.quiet, o.2.2.quiet)

/-- A step comes to the same without debugging, keeps the collaborators, and puts nothing down but calls aside if it
exchanges nothing. -/
structure Discreet (exchanges : Prop) (m : Manager (Journal W) κ ς) (r : Journal W) (o o' : Managed (Journal W) κ ς α) :
    Prop where
  quiet : o' = o.quiet
  sources : o.2.1.sources = m.sources
  adds : ¬ exchanges → Adds Aside r o.2.2

/-- What is discreet after calls aside is discreet before them. -/
theorem Discreet.after {exchanges : Prop} {m m' : Manager (Journal W) κ ς} {r r' : Journal W}
    {o o' : Managed (Journal W) κ ς α} (h : Discreet exchanges m' r' o o') (hsources : m'.sources = m.sources)
    (hadds : Adds Aside r r') : Discreet exchanges m r o o' :=
  ⟨h.quiet, h.sources.trans hsources, fun hnone => hadds.trans (h.adds hnone)⟩

theorem Discreet.weaken {exchanges exchanges' : Prop} {m : Manager (Journal W) κ ς} {r : Journal W}
    {o o' : Managed (Journal W) κ ς α} (h : Discreet exchanges m r o o') (hexchanges : exchanges → exchanges') :
    Discreet exchanges' m r o o' :=
  ⟨h.quiet, h.sources, fun hnone => h.adds fun he => hnone (hexchanges he)⟩

namespace Manager

variable [CardChannel W κ] [Network W] [Host W] (m : Manager (Journal W) (Outside κ) (Outside ς)) (r : Journal W)

/-! ### Exchanges -/

theorem send_discreet (c : Command) :
    Discreet True m r (m.send c r) (m.quiet.send c r.quiet) := by
  refine ⟨?_, ?_, fun h => absurd trivial h⟩
  · cases hch : m.channel with
    | none =>
      have hquiet : m.quiet.channel = none := by rw [quiet, hch]; rfl
      rw [send_none hch, send_none hquiet]
      rfl
    | some n =>
      have hquiet : m.quiet.channel = some n.quiet := by rw [quiet, hch]; rfl
      have htransmit : CardChannel.transmit c n.quiet r.quiet = (n.transmit c r).quiet :=
        n.transmit_quiet backend_oblivious c r
      rw [send_some hch, send_some hquiet, htransmit]
      rfl
  · cases hch : m.channel with
    | none => rw [send_none hch]
    | some n =>
      rw [send_some hch]
      rfl

theorem selectApplet_discreet :
    Discreet True m r (m.selectApplet r) (m.quiet.selectApplet r.quiet) := by
  cases haid : m.aid with
  | none =>
    rw [selectApplet_none haid, selectApplet_none (m := m.quiet) haid]
    exact ⟨rfl, rfl, fun _ => .refl _ r⟩
  | some aid =>
    rw [selectApplet_some haid, selectApplet_some (m := m.quiet) haid]
    exact m.send_discreet r (.selectAid aid)

theorem transmit_discreet (c : Command) :
    Discreet True m r (m.transmit c r) (m.quiet.transmit c r.quiet) := by
  unfold transmit
  rw [quiet_state]
  by_cases h : m.state = .connected
  · rw [if_pos h, if_pos h]
    exact m.send_discreet r c
  · rw [if_neg h, if_neg h]
    exact ⟨rfl, rfl, fun _ => .refl _ r⟩

theorem selectIfConfigured_discreet :
    Discreet True m r (m.selectIfConfigured r) (m.quiet.selectIfConfigured r.quiet) := by
  cases haid : m.aid with
  | none =>
    rw [selectIfConfigured_none haid, selectIfConfigured_none (m := m.quiet) haid]
    exact ⟨rfl, rfl, fun _ => .refl _ r⟩
  | some aid =>
    obtain ⟨hquiet, hsources, -⟩ := m.send_discreet r (.selectAid aid)
    rw [selectIfConfigured_some haid, selectIfConfigured_some (m := m.quiet) haid, hquiet]
    rcases hsend : m.send (.selectAid aid) r with ⟨e | response, m', r'⟩
    · rw [hsend] at hsources
      exact ⟨rfl, hsources, fun h => absurd trivial h⟩
    · rw [hsend] at hsources
      exact ⟨rfl, hsources, fun h => absurd trivial h⟩

/-! ### Channels that come and go -/

theorem releaseHeld_quiet :
    m.quiet.releaseHeld r.quiet = (m.releaseHeld r).quiet ∧ Adds Aside r (m.releaseHeld r) := by
  unfold releaseHeld
  rw [quiet]
  cases m.channel with
  | none => exact ⟨rfl, .refl _ r⟩
  | some n => exact backend_oblivious.release n.inner r

variable [ChannelTraits κ]

theorem adopt_discreet (k : Backend (Outside κ)) :
    Discreet False m r (m.adopt k r) (m.quiet.adopt k r.quiet) := by
  cases hk : ChannelTraits.isWrapped k with
  | true =>
    obtain ⟨hends, hadds⟩ := backend_oblivious.release k r
    rw [adopt_wrapped hk, adopt_wrapped hk]
    exact ⟨congrArg (fun r => (_, _, r)) hends, rfl, fun _ => hadds⟩
  | false =>
    obtain ⟨hends, hadds⟩ := m.releaseHeld_quiet r
    rw [adopt_unwrapped hk, adopt_unwrapped hk]
    exact ⟨congrArg (fun r => (_, _, r)) hends, rfl, fun _ => hadds⟩

theorem adoptAndSelect_discreet (k : Backend (Outside κ)) (doSelect : Bool) :
    Discreet (doSelect = true) m r (m.adoptAndSelect k doSelect r) (m.quiet.adoptAndSelect k doSelect r.quiet) := by
  obtain ⟨hquiet, hsources, hadds⟩ := m.adopt_discreet r k
  unfold adoptAndSelect
  rw [hquiet]
  rcases hadopt : m.adopt k r with ⟨e | _, m', r'⟩
  · rw [hadopt] at hsources hadds
    exact ⟨rfl, hsources, fun _ => hadds id⟩
  · rw [hadopt] at hsources hadds
    cases doSelect with
    | false => exact ⟨rfl, hsources, fun _ => hadds id⟩
    | true =>
      obtain ⟨hquiet', hsources', -⟩ := m'.selectIfConfigured_discreet r'
      have hends : Managed.quiet (.ok (), m', r') = ((.ok (), m'.quiet, r'.quiet) : Managed _ _ _ Unit) := rfl
      simp only [hends, hquiet', if_true]
      rcases hselect : m'.selectIfConfigured r' with ⟨e | _, m'', r''⟩
      · rw [hselect] at hsources'
        exact ⟨rfl, hsources'.trans hsources, fun h => absurd trivial h⟩
      · rw [hselect] at hsources'
        exact ⟨rfl, hsources'.trans hsources, fun h => absurd trivial h⟩

omit [ChannelTraits κ] in
theorem disconnect_discreet (reset : Bool) :
    Discreet False m r (m.disconnect reset r) (m.quiet.disconnect reset r.quiet) := by
  cases hch : m.channel with
  | none =>
    simp only [disconnect, quiet_channel, hch]
    exact ⟨rfl, rfl, fun _ => .refl _ r⟩
  | some n =>
    have hends : CardChannel.disconnect reset n.quiet r.quiet = Outcome.quiet (CardChannel.disconnect reset n r) :=
      n.mapInner_quiet (backend_oblivious.disconnect reset n.inner) r
    have hadds : Adds Aside r (CardChannel.disconnect reset n r).2.2 := (backend_oblivious.disconnect reset n.inner r).2
    simp only [disconnect, quiet_channel, hch, Option.map_some, hends]
    rcases hdisconnect : CardChannel.disconnect reset n r with ⟨result, n', r'⟩
    rw [hdisconnect] at hadds
    obtain ⟨hends', hadds'⟩ := backend_oblivious.release n'.inner r'
    exact ⟨congrArg (fun r => (_, _, r)) hends', rfl, fun _ => hadds.trans hadds'⟩

omit [CardChannel W κ] [Network W] [Host W] [ChannelTraits κ] in
/-- A question that goes straight to the channel inside. -/
theorem ask_discreet {call : Backend (Outside κ) → Journal W → Outcome (Backend (Outside κ)) (Journal W) α}
    (hcall : ∀ k, Unaware Aside (call k)) :
    Discreet False m r (m.withChannel (fun n r => n.mapInner (call n.inner r)) r)
      (m.quiet.withChannel (fun n r => n.mapInner (call n.inner r)) r.quiet) := by
  cases hch : m.channel with
  | none =>
    simp only [withChannel, quiet_channel, hch]
    exact ⟨rfl, rfl, fun _ => .refl _ r⟩
  | some n =>
    have hends : n.quiet.mapInner (call n.quiet.inner r.quiet) = _ := n.mapInner_quiet (hcall n.inner) r
    simp only [withChannel, quiet_channel, hch, Option.map_some, hends]
    exact ⟨rfl, rfl, fun _ => (hcall n.inner r).2⟩

theorem onChannel_quiet (request : NormalizedRequest) :
    m.quiet.withChannel request.quiet.perform r.quiet =
        ((m.withChannel request.perform r).1.map NormalizedAnswer.quiet, (m.withChannel request.perform r).2.1.quiet,
          (m.withChannel request.perform r).2.2.quiet) ∧
      (m.withChannel request.perform r).2.1.sources = m.sources := by
  cases hch : m.channel with
  | none =>
    simp only [withChannel, quiet_channel, hch]
    exact ⟨rfl, trivial⟩
  | some n =>
    have hends := n.perform_quiet backend_oblivious request r
    simp only [withChannel, quiet_channel, hch, Option.map_some, hends]
    refine ⟨?_, rfl⟩
    cases (request.perform n r).1 <;> rfl

/-! ### Connecting -/

omit [CardChannel W κ] [Network W] [Host W] [ChannelTraits κ] in
theorem connectTerminal_unaware {source : Option (TerminalSource (Journal W) (Outside κ))}
    (hsource : ∀ s, source = some s → s.Blind) (settings : Settings) (byName : Bool) :
    Unaware Aside (connectTerminal source settings byName) := by
  intro r
  cases source with
  | none => exact ⟨rfl, .refl _ r⟩
  | some source =>
    obtain ⟨hterminals, hconnect⟩ := hsource source rfl
    obtain ⟨hends, hadds⟩ := hterminals r
    simp only [connectTerminal, hends]
    rcases hlist : source.terminals r with ⟨e | terminals, r'⟩
    · rw [hlist] at hadds
      exact ⟨rfl, hadds⟩
    · rw [hlist] at hadds
      simp only [Ending.quiet_pair, Ending.quiet_journal]
      cases Terminal.choose settings byName terminals with
      | error e => exact ⟨rfl, hadds⟩
      | ok t =>
        obtain ⟨hends', hadds'⟩ := hconnect t.name r'
        simp only [hends']
        exact ⟨rfl, hadds.trans hadds'⟩

omit [CardChannel W κ] [Network W] [Host W] [ChannelTraits κ] in
theorem connectLegacy_unaware {source : Option (TerminalSource (Journal W) (Outside κ))}
    (hsource : ∀ s, source = some s → s.Blind) (settings : Settings) :
    Unaware Aside (connectLegacy source settings) := by
  intro r
  cases source with
  | none => exact ⟨rfl, .refl _ r⟩
  | some source =>
    obtain ⟨hterminals, hconnect⟩ := hsource source rfl
    obtain ⟨hends, hadds⟩ := hterminals r
    simp only [connectLegacy, hends]
    rcases hlist : source.terminals r with ⟨e | terminals, r'⟩
    · rw [hlist] at hadds
      exact ⟨rfl, hadds⟩
    · rw [hlist] at hadds
      simp only [Ending.quiet_pair, Ending.quiet_journal]
      rcases Terminal.chooseSimulated settings terminals with e | _ | t
      · exact ⟨rfl, hadds⟩
      · exact ⟨rfl, hadds⟩
      · obtain ⟨hends', hadds'⟩ := hconnect t.name r'
        simp only [hends']
        exact ⟨rfl, hadds.trans hadds'⟩

omit [CardChannel W κ] [Network W] [Host W] [ChannelTraits κ] in
theorem connectRemote_unaware {connector : Option (RemoteConnector (Journal W) (Outside κ))}
    (hconnector : ∀ c, connector = some c → c.Blind) (settings : Settings) :
    Unaware Aside (connectRemote connector settings) := by
  cases connector with
  | none => exact fun r => ⟨rfl, .refl _ r⟩
  | some connector => exact hconnector connector rfl settings

variable [CardSimulator W ς κ] {m}

/-- A simulator is selected before it is a channel, so none of this is an exchange. -/
theorem openSimulator_discreet (settings : Settings) (doSelect : Bool) :
    Discreet False m r (m.openSimulator settings doSelect r) (m.quiet.openSimulator settings doSelect r.quiet) := by
  simp only [openSimulator, quiet_aid, quiet_simulator]
  rcases m.aid with _ | aid
  · exact ⟨rfl, rfl, fun _ => .refl _ r⟩
  rcases m.simulator with _ | simulator
  · exact ⟨rfl, rfl, fun _ => .refl _ r⟩
  obtain ⟨hends, hadds⟩ := install_unaware aid (settings.installData.getD []) simulator r
  simp only [hends]
  rcases hinstall : CardSimulator.install aid (settings.installData.getD []) simulator r with ⟨e | _, s, r'⟩
  · rw [hinstall] at hadds
    exact ⟨rfl, rfl, fun _ => hadds⟩
  · rw [hinstall] at hadds
    simp only [Ending.quiet_pair, Ending.quiet_journal]
    -- whatever was selected, the channel is adopted by a manager with the same collaborators
    have hadopt : ∀ (s : Outside ς) (r' : Journal W) (m' : Manager (Journal W) (Outside κ) (Outside ς)),
        Adds Aside r r' → m'.sources = m.sources → Discreet False m r
          (m'.adoptAndSelect (.inr (CardSimulator.intoChannel s r').1) false (CardSimulator.intoChannel s r').2)
          (m'.quiet.adoptAndSelect (.inr (CardSimulator.intoChannel s r'.quiet).1) false
            (CardSimulator.intoChannel s r'.quiet).2) := by
      intro s r' m' hbefore hsources
      obtain ⟨hends, hadds⟩ := intoChannel_unaware s r'
      rw [hends]
      refine ((m'.adoptAndSelect_discreet _ _ false).after hsources (hbefore.trans hadds)).weaken ?_
      intro h
      cases h
    cases doSelect with
    | false => exact hadopt s r' _ hadds rfl
    | true =>
      obtain ⟨hends', hadds'⟩ := select_unaware aid s r'
      simp only [if_true, hends']
      rcases hselect : CardSimulator.select aid s r' with ⟨e | response, s', r''⟩
      · rw [hselect] at hadds'
        exact ⟨rfl, rfl, fun _ => hadds.trans hadds'⟩
      · rw [hselect] at hadds'
        exact hadopt s' r'' _ (hadds.trans hadds') rfl

theorem openCard_discreet (hm : m.Blind) (settings : Settings) :
    Discreet (settings.kind ≠ .localSimulator ∧ (m.doSelect && settings.doSelect) = true) m r
      (m.openCard settings r) (m.quiet.openCard settings r.quiet) := by
  have hadopt : ∀ (k : Outside κ) (r' : Journal W), Adds Aside r r' →
      Discreet ((m.doSelect && settings.doSelect) = true) m r
        (m.adoptAndSelect (.inr k) (m.doSelect && settings.doSelect) r')
        (m.quiet.adoptAndSelect (.inr k) (m.doSelect && settings.doSelect) r'.quiet) :=
    fun k r' hadds => (m.adoptAndSelect_discreet r' (.inr k) _).after rfl hadds
  cases hkind : settings.kind with
  | physical =>
    obtain ⟨hends, hadds⟩ := connectTerminal_unaware hm.terminals settings true r
    simp only [openCard, hkind, quiet_terminals, quiet_doSelect, hends]
    rcases hcalled : connectTerminal m.terminals settings true r with ⟨e | k, r'⟩
    · rw [hcalled] at hadds
      exact ⟨rfl, rfl, fun _ => hadds⟩
    · rw [hcalled] at hadds
      exact (hadopt k r' hadds).weaken fun h => ⟨by decide, h⟩
  | physicalDirect =>
    obtain ⟨hends, hadds⟩ := connectTerminal_unaware hm.terminals settings false r
    simp only [openCard, hkind, quiet_terminals, quiet_doSelect, hends]
    rcases hcalled : connectTerminal m.terminals settings false r with ⟨e | k, r'⟩
    · rw [hcalled] at hadds
      exact ⟨rfl, rfl, fun _ => hadds⟩
    · rw [hcalled] at hadds
      exact (hadopt k r' hadds).weaken fun h => ⟨by decide, h⟩
  | legacySimulator =>
    obtain ⟨hends, hadds⟩ := connectLegacy_unaware hm.legacyTerminals settings r
    simp only [openCard, hkind, quiet_legacyTerminals, quiet_doSelect, hends]
    rcases hcalled : connectLegacy m.legacyTerminals settings r with ⟨e | _ | k, r'⟩
    · rw [hcalled] at hadds
      exact ⟨rfl, rfl, fun _ => hadds⟩
    · rw [hcalled] at hadds
      obtain ⟨hends', hadds'⟩ := m.releaseHeld_quiet r'
      exact ⟨congrArg (fun r => (_, _, r)) hends', rfl, fun _ => hadds.trans hadds'⟩
    · rw [hcalled] at hadds
      exact (hadopt k r' hadds).weaken fun h => ⟨by decide, h⟩
  | localSimulator =>
    simp only [openCard, hkind]
    exact (openSimulator_discreet r settings _).weaken False.elim
  | remoteSimulator =>
    simp only [openCard, hkind]
    exact ⟨rfl, rfl, fun _ => .refl _ r⟩
  | remote =>
    obtain ⟨hends, hadds⟩ := connectRemote_unaware hm.remote settings r
    simp only [openCard, hkind, quiet_remote, quiet_doSelect, hends]
    rcases hcalled : connectRemote m.remote settings r with ⟨e | k, r'⟩
    · rw [hcalled] at hadds
      exact ⟨rfl, rfl, fun _ => hadds⟩
    · rw [hcalled] at hadds
      exact (hadopt k r' hadds).weaken fun h => ⟨by decide, h⟩
  | virtualCard =>
    simp only [openCard, hkind]
    exact (m.adoptAndSelect_discreet r _ _).weaken fun h => ⟨by decide, h⟩

omit [ChannelTraits κ] [CardSimulator W ς κ] in
theorem prepare_discreet (settings : Settings) :
    m.quiet.prepare settings r.quiet = ((m.prepare settings r).1.quiet, (m.prepare settings r).2.quiet) ∧
      (m.prepare settings r).1.sources = m.sources ∧ Adds Aside r (m.prepare settings r).2 := by
  have hheld : m.quiet.channel.isSome = m.channel.isSome := Option.isSome_map
  obtain ⟨hends, hsources, hadds⟩ := disconnect_discreet { m with aid := m.aid.or settings.aid } r true
  have hnamed : ({ m.quiet with aid := m.quiet.aid.or settings.aid } : Manager (Journal W) (Outside κ) (Outside ς)) =
      quiet { m with aid := m.aid.or settings.aid } := rfl
  simp only [prepare, hheld, hnamed]
  split
  · simp only [hends]
    exact ⟨rfl, hsources, hadds id⟩
  · exact ⟨rfl, rfl, .refl _ r⟩

theorem connect_discreet (hm : m.Blind) (settings : Settings) :
    Discreet (settings.kind ≠ .localSimulator ∧ (m.doSelect && settings.doSelect) = true) m r
      (m.connect settings r) (m.quiet.connect settings r.quiet) := by
  obtain ⟨hprepare, hsources, hadds⟩ := prepare_discreet (m := m) r settings
  have hauto : (m.prepare settings r).1.doSelect = m.doSelect := by rw [prepare_eq]
  unfold connect
  rw [hprepare, ← hauto]
  generalize m.prepare settings r = prepared at hsources hadds ⊢
  obtain ⟨m', r'⟩ := prepared
  obtain ⟨hopen, hsources', hadds'⟩ := openCard_discreet r' (hm.of_sources hsources) settings
  simp only [hopen]
  rcases hcard : m'.openCard settings r' with ⟨e | found, m'', r''⟩
  · rw [hcard] at hsources' hadds'
    exact ⟨rfl, hsources'.trans hsources, fun h => hadds.trans (hadds' h)⟩
  · rw [hcard] at hsources' hadds'
    exact ⟨rfl, hsources'.trans hsources, fun h => hadds.trans (hadds' h)⟩

variable (m)

omit [CardSimulator W ς κ] in
theorem connectChannel_discreet (k : Outside κ) :
    Discreet False m r (m.connectChannel k r) (m.quiet.connectChannel k r.quiet) := by
  obtain ⟨hquiet, hsources, hadds⟩ := m.adopt_discreet r (.inr k)
  unfold connectChannel
  rw [hquiet]
  rcases hadopt : m.adopt (.inr k) r with ⟨e | _, m', r'⟩
  · rw [hadopt] at hsources hadds
    exact ⟨rfl, hsources, hadds⟩
  · rw [hadopt] at hsources hadds
    exact ⟨rfl, hsources, hadds⟩

theorem connectSimulator_discreet (s : Outside ς) :
    Discreet (m.doSelect = true) m r (m.connectSimulator s r) (m.quiet.connectSimulator s r.quiet) := by
  obtain ⟨hends, hadds⟩ := intoChannel_unaware s r
  rcases hchannel : CardSimulator.intoChannel s r with ⟨k, r'⟩
  rw [hchannel] at hends hadds
  simp only [Ending.quiet_pair, Ending.quiet_journal] at hends
  cases hk : ChannelTraits.isWrapped (.inr k : Backend (Outside κ)) with
  | true =>
    obtain ⟨hends', hadds'⟩ := backend_oblivious.release (.inr k : Backend (Outside κ)) r'
    rw [(connectSimulator_wrapped hchannel hk m).1, (connectSimulator_wrapped hends hk m.quiet).1]
    exact ⟨congrArg (fun r => (_, _, r)) hends', rfl, fun _ => hadds.trans hadds'⟩
  | false =>
    obtain ⟨hends', hadds'⟩ := m.releaseHeld_quiet r'
    have hattached : m.quiet.attached k = (m.attached k).quiet := rfl
    rw [(connectSimulator_unwrapped hchannel hk m).1, (connectSimulator_unwrapped hends hk m.quiet).1, hattached, hends',
      quiet_doSelect]
    cases m.doSelect with
    | false => exact ⟨rfl, rfl, fun _ => hadds.trans hadds'⟩
    | true =>
      have hselect : Discreet True m r _ _ :=
        ((m.attached k).selectIfConfigured_discreet _).after rfl (hadds.trans hadds')
      exact hselect.weaken fun _ => rfl

omit [CardChannel W κ] [Network W] [Host W] [ChannelTraits κ] [CardSimulator W ς κ] in
theorem changes_quiet (changes : List OptionChange) (m : Manager (Journal W) (Outside κ) (Outside ς)) :
    (changes.map OptionChange.quiet).foldl (fun m d => m.changeOption d) m.quiet =
        (changes.foldl (fun m d => m.changeOption d) m).quiet ∧
      (changes.foldl (fun m d => m.changeOption d) m).sources = m.sources := by
  induction changes generalizing m with
  | nil => exact ⟨rfl, rfl⟩
  | cons d changes ih =>
    have hstep : m.quiet.changeOption d.quiet = (m.changeOption d).quiet := by
      have hchanged := m.options.quiet_change d
      simp only [changeOption, quiet, hchanged, Option.map_map]
      rfl
    obtain ⟨hquiet, hsources⟩ := ih (m.changeOption d)
    rw [List.map_cons, List.foldl_cons, List.foldl_cons, hstep, hquiet]
    exact ⟨rfl, hsources⟩

end Manager

/-! ## Calls -/

namespace ManagerRequest

/-- The call without debugging. -/
def quiet : ManagerRequest W κ ς → ManagerRequest W κ ς
  | .withOptions o => .withOptions o.quiet
  | .returnChannel n => .returnChannel n.quiet
  | .onChannel request => .onChannel request.quiet
  | .change changes => .change (changes.map OptionChange.quiet)
  | request => request

/-- The call in a journaled world, with collaborators and channels from outside. -/
def outside : ManagerRequest W κ ς → ManagerRequest (Journal W) (Outside κ) (Outside ς)
  | .connect settings => .connect settings
  | .connectChannel k => .connectChannel ⟨k⟩
  | .connectSimulator s => .connectSimulator ⟨s⟩
  | .withTerminals source => .withTerminals source.outside
  | .withLegacyTerminals source => .withLegacyTerminals source.outside
  | .withSimulator s => .withSimulator ⟨s⟩
  | .withRemote connector => .withRemote connector.outside
  | .withOptions o => .withOptions o
  | .transmit c => .transmit c
  | .selectApplet => .selectApplet
  | .disconnect hard => .disconnect hard
  | .takeChannel => .takeChannel
  | .returnChannel n => .returnChannel { n with inner := n.inner.map id .mk }
  | .onChannel request => .onChannel request
  | .atr => .atr
  | .reset => .reset
  | .protocol => .protocol
  | .setAid aid => .setAid aid
  | .setDoSelect doSelect => .setDoSelect doSelect
  | .change changes => .change changes

theorem outside_quiet (request : ManagerRequest W κ ς) : request.outside.quiet = request.quiet.outside := by
  cases request <;> rfl

def Blind : ManagerRequest (Journal W) κ ς → Prop
  | .withTerminals source => source.Blind
  | .withLegacyTerminals source => source.Blind
  | .withRemote connector => connector.Blind
  | _ => True

theorem outside_blind (request : ManagerRequest W κ ς) : request.outside.Blind := by
  cases request with
  | withTerminals source => exact source.outside_blind
  | withLegacyTerminals source => exact source.outside_blind
  | withRemote connector => exact connector.outside_blind
  | _ => trivial

end ManagerRequest

def ManagerAnswer.quiet : ManagerAnswer κ → ManagerAnswer κ
  | .channel answer => .channel answer.quiet
  | .taken n => .taken (n.map Normalized.quiet)
  | .options o => .options o.quiet
  | answer => answer

theorem ManagerAnswer.quiet_plain {ε : Type} (f : α → Answer) (result : Except ε α) :
    (result.map fun a => (.plain (f a) : ManagerAnswer κ)).map quiet = result.map fun a => .plain (f a) := by
  cases result <;> rfl

namespace ManagerRequest

variable [ChannelTraits κ] [CardChannel W κ] [CardSimulator W ς κ] [Network W] [Host W]
  {m : Manager (Journal W) (Outside κ) (Outside ς)} {request : ManagerRequest (Journal W) (Outside κ) (Outside ς)}

theorem perform_quiet (hm : m.Blind) (hrequest : request.Blind) (r : Journal W) :
    request.quiet.perform m.quiet r.quiet =
        ((request.perform m r).1.map ManagerAnswer.quiet, (request.perform m r).2.1.quiet,
          (request.perform m r).2.2.quiet) ∧
      (request.perform m r).2.1.Blind := by
  -- a call that is discreet and answers plainly
  have hplain : ∀ {exchanges : Prop} {β : Type} {o o' : Managed (Journal W) (Outside κ) (Outside ς) β}
      (f : β → Answer), Discreet exchanges m r o o' →
        o'.map (fun a => .plain (f a)) = ((o.map fun a => (.plain (f a) : ManagerAnswer (Outside κ))).1.map
            ManagerAnswer.quiet, o.2.1.quiet, o.2.2.quiet) ∧ o.2.1.Blind := by
    intro exchanges β o o' f h
    refine ⟨?_, hm.of_sources h.sources⟩
    rw [h.quiet]
    simp only [Managed.map, ManagerAnswer.quiet_plain]
    rfl
  cases request with
  | connect settings => exact hplain .flag (Manager.connect_discreet r hm settings)
  | connectChannel k => exact hplain (fun _ => .done) (m.connectChannel_discreet r k)
  | connectSimulator s => exact hplain (fun _ => .done) (m.connectSimulator_discreet r s)
  | withTerminals source =>
    refine ⟨rfl, { hm with terminals := ?_ }⟩
    intro source' h
    cases h
    exact hrequest
  | withLegacyTerminals source =>
    refine ⟨rfl, { hm with legacyTerminals := ?_ }⟩
    intro source' h
    cases h
    exact hrequest
  | withRemote connector =>
    refine ⟨rfl, { hm with remote := ?_ }⟩
    intro connector' h
    cases h
    exact hrequest
  | withSimulator s => exact ⟨rfl, hm.of_sources rfl⟩
  | withOptions o => exact ⟨rfl, hm.of_sources rfl⟩
  | transmit c => exact hplain .response (m.transmit_discreet r c)
  | selectApplet => exact hplain .response (m.selectApplet_discreet r)
  | disconnect hard => exact hplain (fun _ => .done) (m.disconnect_discreet r hard)
  | takeChannel => exact ⟨rfl, hm.of_sources rfl⟩
  | returnChannel n =>
    have hends := (backend_oblivious.release n.inner r).1
    exact ⟨congrArg (fun r => (_, _, r)) hends, hm⟩
  | onChannel request =>
    obtain ⟨hends, hsources⟩ := m.onChannel_quiet r request
    refine ⟨?_, hm.of_sources hsources⟩
    simp only [quiet, perform, hends, Managed.map]
    cases (m.withChannel request.perform r).1 <;> rfl
  | atr => exact hplain .atr (m.ask_discreet r backend_oblivious.atr)
  | reset => exact hplain .atr (m.ask_discreet r backend_oblivious.atr)
  | protocol => exact hplain .protocol (m.ask_discreet r backend_oblivious.protocol)
  | setAid aid => exact ⟨rfl, hm.of_sources rfl⟩
  | setDoSelect doSelect => exact ⟨rfl, hm.of_sources rfl⟩
  | change changes =>
    obtain ⟨hends, hsources⟩ := Manager.changes_quiet changes m
    refine ⟨?_, hm.of_sources hsources⟩
    simp only [quiet, perform, hends]
    rfl

end ManagerRequest

end
end CardLink
