import CardLink.Proofs.Connection.Steps

/-!
# The channel that a manager holds

Every step of a manager leaves the held channel sound: it has the manager's options and normalizes for a
channel that did not when it was adopted. A channel of a collaborator may say at any time whether it
normalizes; one that never changes its mind does not while it is held.
-/

namespace CardLink

open VirtualCard (Network)

/-- What a channel becomes by the calls of a manager that holds it. -/
inductive Evolves (W : Type) {κ : Type} [CardChannel W κ] (first : κ) : κ → Prop where
  | refl : Evolves W first first
  | transmit {k} (c : Command) (w : W) : Evolves W first k →
      Evolves W first (CardChannel.transmit c k w).2.1
  | atr {k} (w : W) : Evolves W first k → Evolves W first (CardChannel.atr k w).2.1
  | protocol {k} (w : W) : Evolves W first k → Evolves W first (CardChannel.protocol k w).2.1

/-- Whether a channel normalizes is settled for good when it is made. -/
structure SteadyWrapping (W κ : Type) [ChannelTraits κ] [CardChannel W κ] : Prop where
  transmit : ∀ c (k : κ) (w : W),
    ChannelTraits.isWrapped (CardChannel.transmit c k w).2.1 = ChannelTraits.isWrapped k
  atr : ∀ (k : κ) (w : W),
    ChannelTraits.isWrapped (CardChannel.atr k w).2.1 = ChannelTraits.isWrapped k
  protocol : ∀ (k : κ) (w : W),
    ChannelTraits.isWrapped (CardChannel.protocol k w).2.1 = ChannelTraits.isWrapped k

theorem Evolves.isWrapped {W κ : Type} [ChannelTraits κ] [CardChannel W κ] {first k : κ}
    (hs : SteadyWrapping W κ) (h : Evolves W first k) :
    ChannelTraits.isWrapped k = ChannelTraits.isWrapped first := by
  induction h with
  | refl => rfl
  | transmit c w _ ih => exact (hs.transmit c _ w).trans ih
  | atr w _ ih => exact (hs.atr _ w).trans ih
  | protocol w _ ih => exact (hs.protocol _ w).trans ih

namespace SteadyWrapping

variable {W κ κ' : Type} [ChannelTraits κ] [CardChannel W κ] [ChannelTraits κ'] [CardChannel W κ']

theorem sum (h : SteadyWrapping W κ) (h' : SteadyWrapping W κ') : SteadyWrapping W (κ ⊕ κ') := by
  refine ⟨?_, ?_, ?_⟩
  · rintro c (k | k) w
    · exact h.transmit c k w
    · exact h'.transmit c k w
  · rintro (k | k) w
    · exact h.atr k w
    · exact h'.atr k w
  · rintro (k | k) w
    · exact h.protocol k w
    · exact h'.protocol k w

/-- A manager's own sessions never normalize, so only the channels of its collaborators matter. -/
theorem backend [Network W] (h : SteadyWrapping W κ) : SteadyWrapping W (Backend κ) :=
  sum ⟨fun _ _ _ => rfl, fun _ _ => rfl, fun _ _ => rfl⟩ h

end SteadyWrapping

theorem Normalized.transmit_evolves {W κ : Type} [CardChannel W κ] [Host W] {first : κ}
    {n : Normalized κ} (h : Evolves W first n.inner) (c : Command) (w : W) :
    (n.transmit c w).2.1.options = n.options ∧ Evolves W first (n.transmit c w).2.1.inner := by
  unfold Normalized.transmit
  split
  · exact ⟨rfl, h⟩
  · exact ⟨rfl, h.transmit _ _⟩

namespace Manager

variable {W κ ς : Type} [ChannelTraits κ] [CardChannel W κ] [Network W] {m m' m'' : Manager W κ ς}

def Sound (m : Manager W κ ς) : Prop :=
  ∀ n, m.channel = some n → n.options = m.options ∧
    ∃ first : Backend κ, ChannelTraits.isWrapped first = false ∧ Evolves W first n.inner

/-- What the steps of a connection leave as it was. -/
structure Keeps (m m' : Manager W κ ς) : Prop where
  aid : m'.aid = m.aid
  options : m'.options = m.options
  sound : m.Sound → m'.Sound

theorem Keeps.trans (h : Keeps m m') (h' : Keeps m' m'') : Keeps m m'' :=
  ⟨h'.aid.trans h.aid, h'.options.trans h.options, fun hm => h'.sound (h.sound hm)⟩

theorem Sound.of_same (hm : m.Sound) (hch : m'.channel = m.channel) (hoptions : m'.options = m.options) :
    m'.Sound := by
  intro n hn
  rw [hch] at hn
  rw [hoptions]
  exact hm n hn

theorem sound_of_none (h : m.channel = none) : m.Sound := by
  intro n hn
  rw [h] at hn
  cases hn

theorem Keeps.of_same (hch : m'.channel = m.channel) (haid : m'.aid = m.aid)
    (hoptions : m'.options = m.options) : Keeps m m' :=
  ⟨haid, hoptions, fun hm => hm.of_same hch hoptions⟩

theorem holding_keeps {k : Backend κ} (h : ChannelTraits.isWrapped k = false) (m : Manager W κ ς) :
    Keeps m (m.holding k) := by
  refine ⟨rfl, rfl, ?_⟩
  intro _ n hn
  cases hn
  exact ⟨rfl, k, h, .refl⟩

theorem changeOption_sound (hm : m.Sound) (d : OptionChange) : (m.changeOption d).Sound := by
  intro n hn
  obtain ⟨n', hch, rfl⟩ := Option.map_eq_some_iff.mp hn
  exact ⟨rfl, (hm n' hch).2⟩

theorem changes_sound (hm : m.Sound) (changes : List OptionChange) :
    (changes.foldl (fun m d => m.changeOption d) m).Sound := by
  induction changes generalizing m with
  | nil => exact hm
  | cons d changes ih => exact ih (changeOption_sound hm d)

/-- A call that changes the channel inside and nothing of the options keeps the held channel sound. -/
theorem withChannel_keeps {α : Type}
    {call : Normalized (Backend κ) → W → Outcome (Normalized (Backend κ)) W α}
    (hcall : ∀ n w, (call n w).2.1.options = n.options ∧
      ∀ first : Backend κ, Evolves W first n.inner → Evolves W first (call n w).2.1.inner)
    (m : Manager W κ ς) (w : W) : Keeps m (m.withChannel call w).2.1 := by
  unfold withChannel
  split
  · exact .of_same rfl rfl rfl
  · next n hch =>
    refine ⟨rfl, rfl, ?_⟩
    intro hm n' hn'
    cases hn'
    obtain ⟨hoptions, first, hfirst, hinner⟩ := hm n hch
    exact ⟨(hcall n w).1.trans hoptions, first, hfirst, (hcall n w).2 first hinner⟩

variable [Host W]

theorem send_keeps (c : Command) (m : Manager W κ ς) (w : W) : Keeps m (m.send c w).2.1 := by
  cases hch : m.channel with
  | none =>
    rw [send_none hch]
    exact .of_same rfl rfl rfl
  | some n =>
    rw [send_some hch]
    refine ⟨rfl, rfl, ?_⟩
    intro hm n' hn'
    cases hn'
    obtain ⟨hoptions, first, hfirst, hinner⟩ := hm n hch
    obtain ⟨hsame, hinner'⟩ := Normalized.transmit_evolves hinner c w
    exact ⟨hsame.trans hoptions, first, hfirst, hinner'⟩

theorem transmit_keeps (c : Command) (m : Manager W κ ς) (w : W) : Keeps m (m.transmit c w).2.1 := by
  unfold transmit
  split
  · exact send_keeps c m w
  · exact .of_same rfl rfl rfl

theorem selectApplet_keeps (m : Manager W κ ς) (w : W) : Keeps m (m.selectApplet w).2.1 := by
  cases haid : m.aid with
  | none =>
    rw [selectApplet_none haid]
    exact .of_same rfl rfl rfl
  | some aid =>
    rw [selectApplet_some haid]
    exact send_keeps (.selectAid aid) m w

theorem selectIfConfigured_keeps (m : Manager W κ ς) (w : W) :
    Keeps m (m.selectIfConfigured w).2.1 := by
  cases haid : m.aid with
  | none =>
    rw [selectIfConfigured_none haid]
    exact .of_same rfl rfl rfl
  | some aid =>
    have h := send_keeps (.selectAid aid) m w
    rw [selectIfConfigured_some haid]
    rcases hsend : m.send (.selectAid aid) w with ⟨outcome, m', w'⟩
    rw [hsend] at h
    cases outcome with
    | error e => exact h
    | ok response => exact h.trans (.of_same rfl rfl rfl)

theorem adopt_keeps (k : Backend κ) (m : Manager W κ ς) (w : W) : Keeps m (m.adopt k w).2.1 := by
  cases hk : ChannelTraits.isWrapped k with
  | true =>
    rw [adopt_wrapped hk]
    exact .of_same rfl rfl rfl
  | false =>
    rw [adopt_unwrapped hk]
    exact holding_keeps hk m

theorem connectChannel_keeps (k : κ) (m : Manager W κ ς) (w : W) :
    Keeps m (m.connectChannel k w).2.1 := by
  have h := adopt_keeps (.inr k) m w
  unfold connectChannel
  rcases hadopt : m.adopt (.inr k) w with ⟨outcome, m', w'⟩
  rw [hadopt] at h
  cases outcome with
  | error e => exact h
  | ok _ => exact h.trans (.of_same rfl rfl rfl)

theorem adoptAndSelect_keeps (k : Backend κ) (doSelect : Bool) (m : Manager W κ ς) (w : W) :
    Keeps m (m.adoptAndSelect k doSelect w).2.1 := by
  cases hk : ChannelTraits.isWrapped k with
  | true =>
    rw [adoptAndSelect_wrapped hk]
    exact .of_same rfl rfl rfl
  | false =>
    rw [adoptAndSelect_unwrapped hk]
    cases doSelect with
    | false => exact holding_keeps hk m
    | true => exact (holding_keeps hk m).trans (selectIfConfigured_keeps _ _)

variable [CardSimulator W ς κ]

theorem openCard_keeps (settings : Settings) (m : Manager W κ ς) (w : W) :
    Keeps m (m.openCard settings w).2.1 := by
  by_cases hkind : settings.kind = .localSimulator
  · obtain ⟨m', hch, haid, hoptions, hopen⟩ :=
      openSimulator_cases settings (m.doSelect && settings.doSelect) m w
    have hsame : Keeps m m' := .of_same hch haid hoptions
    simp only [openCard, hkind]
    rcases hopen with ⟨e, w', heq⟩ | ⟨k, w', heq⟩
    · rw [heq]
      exact hsame
    · rw [heq]
      exact hsame.trans (adoptAndSelect_keeps k false m' w')
  · obtain ⟨opened, hopened⟩ := openCard_opened hkind m w
    have heq := hopened m.doSelect
    rcases opened with ⟨e | _ | k, w'⟩
    · rw [heq]
      exact .of_same rfl rfl rfl
    · rw [heq]
      exact ⟨rfl, rfl, fun _ => sound_of_none rfl⟩
    · rw [heq]
      exact adoptAndSelect_keeps k _ m w'

omit [CardSimulator W ς κ] in
/-- The first identifier that anything named stays. -/
theorem prepare_keeps (settings : Settings) (m : Manager W κ ς) (w : W) :
    Keeps { m with aid := m.aid.or settings.aid } (m.prepare settings w).1 := by
  rw [prepare_eq]
  cases settings.disconnectPrevious with
  | true => exact ⟨rfl, rfl, fun _ => sound_of_none rfl⟩
  | false => exact .of_same rfl rfl rfl

theorem connect_keeps (settings : Settings) (m : Manager W κ ς) (w : W) :
    Keeps { m with aid := m.aid.or settings.aid } (m.connect settings w).2.1 := by
  have hprepare := prepare_keeps settings m w
  unfold connect
  rcases hp : m.prepare settings w with ⟨m₁, w₁⟩
  rw [hp] at hprepare
  have hopen := hprepare.trans (openCard_keeps settings m₁ w₁)
  rcases hcard : m₁.openCard settings w₁ with ⟨outcome, m₂, w₂⟩
  rw [hcard] at hopen
  simp only [hcard]
  cases outcome with
  | error e => exact hopen.trans (.of_same rfl rfl rfl)
  | ok found => exact hopen.trans (.of_same rfl rfl rfl)

theorem connectSimulator_keeps (s : ς) (m : Manager W κ ς) (w : W) :
    Keeps m (m.connectSimulator s w).2.1 := by
  unfold connectSimulator
  rcases CardSimulator.intoChannel s w with ⟨k, w₁⟩
  have hkeeps := adopt_keeps (.inr k) m w₁
  rcases hadopt : m.adopt (.inr k) w₁ with ⟨outcome, m', w'⟩
  rw [hadopt] at hkeeps
  simp only [hadopt]
  cases outcome with
  | error e => exact hkeeps
  | ok _ =>
    have hconnected : Keeps m { m' with lastKind := some .localSimulator, state := .connected } :=
      hkeeps.trans (.of_same rfl rfl rfl)
    simp only
    split
    · exact hconnected.trans (selectIfConfigured_keeps _ _)
    · exact hconnected

end Manager

namespace ManagerRequest

variable {W κ ς : Type} [ChannelTraits κ] [CardChannel W κ] [Network W] [Host W] [CardSimulator W ς κ]
  {m : Manager W κ ς}

open Manager (Keeps)

/-- The calls that set a manager up before it is used. -/
def IsBuilder : ManagerRequest W κ ς → Prop
  | .withTerminals _ | .withLegacyTerminals _ | .withSimulator _ | .withRemote _ | .withOptions _ => True
  | _ => False

/-- The calls on a manager in use, all but the caller's own work on the held channel. -/
def IsCall : ManagerRequest W κ ς → Prop
  | .onChannel _ | .withOptions _ => False
  | _ => True

theorem perform_sound {request : ManagerRequest W κ ς} (hr : request.IsCall) (hm : m.Sound) (w : W) :
    (request.perform m w).2.1.Sound := by
  cases request with
  | connect settings => exact (Manager.connect_keeps settings m w).sound (hm.of_same rfl rfl)
  | connectChannel k => exact (Manager.connectChannel_keeps k m w).sound hm
  | connectSimulator s => exact (Manager.connectSimulator_keeps s m w).sound hm
  | transmit c => exact (Manager.transmit_keeps c m w).sound hm
  | selectApplet => exact (Manager.selectApplet_keeps m w).sound hm
  | disconnect reset =>
    refine Manager.sound_of_none ?_
    simp only [perform, Managed.map, Manager.disconnect_after]
  | takeChannel => exact Manager.sound_of_none rfl
  | atr => exact (Manager.withChannel_keeps (fun n w => ⟨rfl, fun _ h => h.atr w⟩) m w).sound hm
  | reset => exact (Manager.withChannel_keeps (fun n w => ⟨rfl, fun _ h => h.atr w⟩) m w).sound hm
  | protocol => exact (Manager.withChannel_keeps (fun n w => ⟨rfl, fun _ h => h.protocol w⟩) m w).sound hm
  | change changes => exact Manager.changes_sound hm changes
  | onChannel request => exact hr.elim
  | withOptions options => exact hr.elim
  | _ => exact hm.of_same rfl rfl

end ManagerRequest
end CardLink
