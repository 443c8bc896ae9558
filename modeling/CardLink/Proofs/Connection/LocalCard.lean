import CardLink.Proofs.Connection.AppletCalls
import CardLink.Proofs.Connection.Selection
import CardLink.Proofs.Connection.Views
import CardLink.Scripted.Applet

/-!
# Two ways to a simulated card

A manager installs and selects an applet on a simulator of its own, or it takes over a simulator on which the
applet was installed and selects it through the channel. Both come to the same, and stay the same under all
later calls, but for what the decorator remembers and logs of the selection. Applets are taken not to look at
the log.
-/

namespace CardLink

open VirtualCard (Network Session)

variable {W V α : Type}

/-- Two outcomes with one result, with related states and with worlds that look the same. -/
structure SameOutcome {σ β : Type} (R : σ → σ → Prop) (view : W → V) (o o' : β × σ × W) : Prop where
  result : o.1 = o'.1
  state : R o.2.1 o'.2.1
  world : view o.2.2 = view o'.2.2

theorem SameOutcome.map {σ β γ ε : Type} {R : σ → σ → Prop} {view : W → V} {o o' : Except ε β × σ × W} (f : β → γ)
    (ho : SameOutcome R view o o') : SameOutcome R view (o.1.map f, o.2) (o'.1.map f, o'.2) :=
  ⟨congrArg (Except.map f) ho.result, ho.state, ho.world⟩

/-- The log cannot be seen in the view, and applets see nothing but the view. -/
structure Silent (α : Type) [Applet W α] [Host W] (view : W → V) : Prop where
  log : ∀ event w, view (Host.log event w) = view w
  select : ∀ (a : α) {w w'}, view w = view w' → SameOutcome Eq view (Applet.select a w) (Applet.select a w')
  deselect : ∀ (a : α) {w w'}, view w = view w' →
    SameOutcome Eq view ((), Applet.deselect a w) ((), Applet.deselect a w')
  process : ∀ command (a : α) {w w'}, view w = view w' →
    SameOutcome Eq view (Applet.process command a w) (Applet.process command a w')

theorem NormalizeOptions.normalize_selectAid (o : NormalizeOptions) (aid : Bytes) :
    (o.normalize (.selectAid aid)).isSelectByAid = true ∧ (o.normalize (.selectAid aid)).payload = aid := by
  unfold normalize
  cases hdata : (Command.selectAid aid).hasData with
  | true =>
    cases o.effectiveFixNe with
    | true => exact ⟨rfl, rfl⟩
    | false => exact ⟨rfl, rfl⟩
  | false =>
    have hempty : aid = [] := by
      simpa [Command.selectAid, Command.hasData, Command.nc, Command.payload] using hdata
    subst hempty
    cases o.fixLc with
    | true => exact ⟨rfl, rfl⟩
    | false => exact ⟨rfl, rfl⟩

namespace AppletHost

/-- The same card, but for the applet that was still waiting to be installed on the other one. -/
structure SameCard (waiting : Option α) (h h' : AppletHost α) : Prop where
  used : h.pending = none
  card : h' = { h with pending := waiting }

namespace SameCard

variable {waiting : Option α} {h h' : AppletHost α}

theorem applets (hcard : SameCard waiting h h') : h.applets = h'.applets := by rw [hcard.card]

theorem selected (hcard : SameCard waiting h h') : h.selected = h'.selected := by rw [hcard.card]

theorem closed (hcard : SameCard waiting h h') : h.closed = h'.closed := by rw [hcard.card]

theorem position (hcard : SameCard waiting h h') (aid : Bytes) : h.position aid = h'.position aid := by
  rw [AppletHost.position, hcard.applets, AppletHost.position]

theorem putApplet (hcard : SameCard waiting h h') (index : Nat) {a a' : α} (ha : a = a') :
    SameCard waiting (h.putApplet index a) (h'.putApplet index a') := by
  obtain ⟨hused, rfl⟩ := hcard
  rw [ha]
  exact ⟨hused, rfl⟩

theorem withSelected (hcard : SameCard waiting h h') (selected : Option Nat) :
    SameCard waiting { h with selected } { h' with selected } := by
  obtain ⟨hused, rfl⟩ := hcard
  exact ⟨hused, rfl⟩

theorem shut (hcard : SameCard waiting h h') :
    SameCard waiting { h with closed := true } { h' with closed := true } := by
  obtain ⟨hused, rfl⟩ := hcard
  exact ⟨hused, rfl⟩

/-- If no applet was waiting, nothing is left to tell the cards apart. -/
theorem eq (hcard : SameCard none h h') : h = h' := by
  obtain ⟨hused, rfl⟩ := hcard
  rw [← hused]

end SameCard

variable [Applet W α] [Host W] {view : W → V} {waiting : Option α}
  {h h' : AppletHost α} {w w' : W}

theorem deselect_same (hsilent : Silent α view) (hcard : SameCard waiting h h') (hw : view w = view w') :
    SameOutcome (SameCard waiting) view ((), h.deselect w) ((), h'.deselect w') := by
  cases hs : h'.selected with
  | none =>
    rw [deselect_none hs, deselect_none (hcard.selected.trans hs)]
    exact ⟨rfl, hcard, hw⟩
  | some index =>
    have hs' : h.selected = some index := hcard.selected.trans hs
    cases ha : h'.applets[index]? with
    | none =>
      have ha' : h.applets[index]? = none := by rw [hcard.applets, ha]
      rw [deselect_missing hs ha, deselect_missing hs' ha']
      exact ⟨rfl, hcard.withSelected none, hw⟩
    | some installed =>
      have ha' : h.applets[index]? = some installed := by rw [hcard.applets, ha]
      obtain ⟨-, happlet, hworld⟩ := hsilent.deselect installed.2 hw
      rw [deselect_some hs ha, deselect_some hs' ha']
      exact ⟨rfl, (hcard.withSelected none).putApplet index happlet, hworld⟩

theorem selectAid_same (hsilent : Silent α view) (hcard : SameCard waiting h h') (hw : view w = view w')
    (aid : Bytes) :
    SameOutcome (SameCard waiting) view (h.selectAid aid w) (h'.selectAid aid w') := by
  obtain ⟨-, hdeselected, hv⟩ := deselect_same hsilent hcard hw
  cases hp : h'.position aid with
  | none =>
    rw [selectAid_unknown hp, selectAid_unknown ((hcard.position aid).trans hp)]
    exact ⟨rfl, hcard, hw⟩
  | some index =>
    have hp' : h.position aid = some index := (hcard.position aid).trans hp
    have hselected := hdeselected.withSelected (some index)
    have happlets : (h.deselect w).1.applets = (h'.deselect w').1.applets := hdeselected.applets
    cases ha : (h'.deselect w').1.applets[index]? with
    | none =>
      have ha' : (h.deselect w).1.applets[index]? = none := by rw [happlets, ha]
      simp only [selectAid, hp, hp', ha', ha]
      exact ⟨rfl, hselected, hv⟩
    | some installed =>
      have ha' : (h.deselect w).1.applets[index]? = some installed := by rw [happlets, ha]
      obtain ⟨hresult, happlet, hworld⟩ := hsilent.select installed.2 hv
      rw [selectAid_known hp w' ha, selectAid_known hp' w ha']
      exact ⟨hresult, hselected.putApplet index happlet, hworld⟩

theorem dispatch_same (hsilent : Silent α view) (hcard : SameCard waiting h h') (hw : view w = view w')
    (command : Command) : SameOutcome (SameCard waiting) view (h.dispatch command w) (h'.dispatch command w') := by
  unfold dispatch
  by_cases hc : command.isSelectByAid = true
  · rw [if_pos hc, if_pos hc]
    exact selectAid_same hsilent hcard hw command.payload
  · rw [if_neg hc, if_neg hc]
    rw [hcard.selected, hcard.applets]
    cases h'.selected.bind fun index => h'.applets[index]?.map fun installed => (index, installed.2) with
    | none => exact ⟨rfl, hcard, hw⟩
    | some found =>
      obtain ⟨hresult, happlet, hworld⟩ := hsilent.process command found.2 hw
      exact ⟨hresult, hcard.putApplet found.1 happlet, hworld⟩

theorem transmit_same (hsilent : Silent α view) (hcard : SameCard waiting h h') (hw : view w = view w')
    (command : Command) :
    SameOutcome (SameCard waiting) view (CardChannel.transmit command h w) (CardChannel.transmit command h' w') := by
  have hdispatch := dispatch_same hsilent hcard hw command
  simp only [CardChannel.transmit, hcard.closed]
  cases h'.closed with
  | true => exact ⟨rfl, hcard, hw⟩
  | false => exact ⟨congrArg Except.ok hdispatch.result, hdispatch.state, hdispatch.world⟩

omit [Host W] in
/-- The waiting applet has no part in installing another one. -/
theorem installApplet_pending (pending : Option α) (aid : Bytes) (a : α) (data : Bytes) (h : AppletHost α) (w : W) :
    { h with pending }.installApplet aid a data w =
      ((h.installApplet aid a data w).1, { (h.installApplet aid a data w).2.1 with pending },
        (h.installApplet aid a data w).2.2) := by
  have hposition : { h with pending }.position aid = h.position aid := rfl
  unfold installApplet
  rw [hposition]
  split
  · rfl
  · rcases Applet.install data a w with ⟨e | ⟨⟩, a', w'⟩
    · rfl
    · cases h.position aid with
      | none => rfl
      | some index => rfl

omit [Host W] in
theorem installApplet_waiting (aid : Bytes) (a : α) (data : Bytes) (h : AppletHost α) (w : W) :
    (h.installApplet aid a data w).2.1.pending = h.pending := by
  unfold installApplet
  split
  · rfl
  · split
    · rfl
    · split <;> rfl

omit [Host W] in
theorem atr_same (hcard : SameCard waiting h h') (hw : view w = view w') :
    SameOutcome (SameCard waiting) view (CardChannel.atr h w) (CardChannel.atr h' w') := by
  simp only [CardChannel.atr, hcard.closed]
  exact ⟨by rw [hcard.card], hcard, hw⟩

theorem disconnect_same (hsilent : Silent α view) (hcard : SameCard waiting h h') (hw : view w = view w')
    (reset : Bool) :
    SameOutcome (SameCard waiting) view (CardChannel.disconnect reset h w) (CardChannel.disconnect reset h' w') := by
  obtain ⟨-, hdeselected, hv⟩ := deselect_same hsilent hcard hw
  cases reset with
  | false => exact ⟨rfl, hcard.shut, hw⟩
  | true => exact ⟨rfl, hdeselected.shut, hv⟩

end AppletHost

/-! ## Behind the decorator of a manager -/

open AppletHost (SameCard)

/-- Decorators of the same card that agree but for what they remember of exchanges. -/
structure SameDecorated (waiting : Option α) (n n' : Normalized (Backend (AppletHost α))) : Prop where
  card : ∃ h h', n.inner = .inr h ∧ n'.inner = .inr h' ∧ SameCard waiting h h'
  options : n.options = n'.options

namespace Normalized

variable [Applet W α] [Network W] [Host W] {view : W → V} {waiting : Option α}
  {n n' : Normalized (Backend (AppletHost α))} {w w' : W}

theorem forward_same (hsilent : Silent α view) (hn : SameDecorated waiting n n') (hw : view w = view w')
    (c : Command) : SameOutcome (SameDecorated waiting) view (n.forward c w) (n'.forward c w') := by
  obtain ⟨⟨h, h', hinner, hinner', hcard⟩, hoptions⟩ := hn
  have hlogged : view (logIf n.options.debug (.request c) w) = view (logIf n'.options.debug (.request c) w') := by
    rw [view_logIf hsilent.log, view_logIf hsilent.log, hw]
  obtain ⟨hresult, hstate, hworld⟩ := AppletHost.transmit_same hsilent hcard hlogged c
  unfold forward
  rw [hinner, hinner']
  refine ⟨hresult, ⟨⟨_, _, rfl, rfl, hstate⟩, hoptions⟩, ?_⟩
  simp only [view_logIf hsilent.log]
  exact hworld

theorem transmit_same (hsilent : Silent α view) (hn : SameDecorated waiting n n') (hw : view w = view w')
    (c : Command) : SameOutcome (SameDecorated waiting) view (n.transmit c w) (n'.transmit c w') := by
  have hnormalize : n.normalize c = n'.normalize c := by rw [normalize, hn.options, normalize]
  unfold transmit
  rw [hnormalize]
  cases (n'.normalize c).checkLengths with
  | error e => exact ⟨rfl, hn, hw⟩
  | ok _ => exact forward_same hsilent hn hw _

omit [Applet W α] [Network W] [Host W] in
theorem mapInner_same {β : Type} {o o' : Outcome (AppletHost α) W β} (hoptions : n.options = n'.options)
    (ho : SameOutcome (SameCard waiting) view o o') :
    SameOutcome (SameDecorated waiting) view (n.mapInner (o.lift .inr)) (n'.mapInner (o'.lift .inr)) :=
  ⟨ho.result, ⟨⟨_, _, rfl, rfl, ho.state⟩, hoptions⟩, ho.world⟩

theorem atr_same (hn : SameDecorated waiting n n') (hw : view w = view w') :
    SameOutcome (SameDecorated waiting) view (CardChannel.atr n w) (CardChannel.atr n' w') := by
  obtain ⟨⟨h, h', hinner, hinner', hcard⟩, hoptions⟩ := hn
  have hsame := mapInner_same hoptions (AppletHost.atr_same hcard hw)
  simp only [CardChannel.atr, hinner, hinner']
  exact hsame

theorem protocol_same (hn : SameDecorated waiting n n') (hw : view w = view w') :
    SameOutcome (SameDecorated waiting) view (CardChannel.protocol n w) (CardChannel.protocol n' w') := by
  obtain ⟨⟨h, h', hinner, hinner', hcard⟩, hoptions⟩ := hn
  simp only [CardChannel.protocol, hinner, hinner']
  exact ⟨rfl, ⟨⟨_, _, rfl, rfl, hcard⟩, hoptions⟩, hw⟩

theorem disconnect_same (hsilent : Silent α view) (hn : SameDecorated waiting n n') (hw : view w = view w')
    (reset : Bool) :
    SameOutcome (SameDecorated waiting) view (CardChannel.disconnect reset n w)
      (CardChannel.disconnect reset n' w') := by
  obtain ⟨⟨h, h', hinner, hinner', hcard⟩, hoptions⟩ := hn
  have hsame := mapInner_same hoptions (AppletHost.disconnect_same hsilent hcard hw reset)
  simp only [CardChannel.disconnect, hinner, hinner']
  exact hsame

/-- A simulated card is dropped without a trace. -/
theorem release_card {h : AppletHost α} (hinner : n.inner = .inr h) (w : W) : CardChannel.release n w = w := by
  simp only [CardChannel.release, hinner]

end Normalized

/-- A manager with applet hosts for simulators. -/
abbrev LocalManager (W α : Type) : Type := Manager W (AppletHost α) (AppletHost α)

/-- The calls of a session that is not replaced by another. -/
def ManagerRequest.IsSessionCall {κ ς : Type} : ManagerRequest W κ ς → Prop
  | .transmit _ | .selectApplet | .disconnect _ | .atr | .reset | .protocol => True
  | .setAid _ | .setDoSelect _ | .change _ => True
  | _ => False

namespace Manager

/-- Managers that are the same, with decorators of the same card. -/
def Agree (waiting : Option α) (m m' : LocalManager W α) : Prop :=
  ∃ channel, m = { m' with channel } ∧ Option.Rel (SameDecorated waiting) channel m'.channel

theorem agree_held {waiting : Option α} {n n' : Normalized (Backend (AppletHost α))} {m m' : LocalManager W α}
    (hn : SameDecorated waiting n n') (hm : m = { m' with channel := some n }) (hch : m'.channel = some n') :
    Agree waiting m m' :=
  ⟨some n, hm, by rw [hch]; exact .some hn⟩

theorem Agree.none_or_held {waiting : Option α} {m m' : LocalManager W α} (hm : Agree waiting m m') :
    (m'.channel = none ∧ m = { m' with channel := none }) ∨
      ∃ n n', m'.channel = some n' ∧ m = { m' with channel := some n } ∧ SameDecorated waiting n n' := by
  obtain ⟨channel, rfl, hrel⟩ := hm
  cases hch : m'.channel with
  | none =>
    rw [hch] at hrel
    cases hrel
    exact Or.inl ⟨rfl, rfl⟩
  | some n' =>
    rw [hch] at hrel
    cases hrel with
    | @some n _ hn => exact Or.inr ⟨n, n', rfl, rfl, hn⟩

theorem Agree.inner_eq {waiting : Option α} {m m' : LocalManager W α} (hm : Agree waiting m m')
    (hnone : waiting = none) : m.channel.map Normalized.inner = m'.channel.map Normalized.inner := by
  subst hnone
  obtain ⟨hch, rfl⟩ | ⟨n, n', hch, rfl, hn⟩ := hm.none_or_held
  · simp only [hch]
  · obtain ⟨⟨h, h', hinner, hinner', hcard⟩, -⟩ := hn
    simp only [hch, Option.map_some, hinner, hinner', hcard.eq]

theorem agreed_on_card {β : Type} {view : W → V} {waiting : Option α} {o o' : β × LocalManager W α × W}
    (ho : SameOutcome (Agree waiting) view o o') :
    SameOutcome (Agree waiting) view o o' ∧
      (waiting = none → o.2.1.channel.map Normalized.inner = o'.2.1.channel.map Normalized.inner) :=
  ⟨ho, ho.state.inner_eq⟩

/-- The results of the calls, and the manager and the world after them. -/
def answers {κ ς : Type} [ChannelTraits κ] [CardChannel W κ] [Network W] [Host W] [CardSimulator W ς κ] :
    List (ManagerRequest W κ ς) → Manager W κ ς → W →
      List (Except ConnectionError (ManagerAnswer κ)) × Manager W κ ς × W
  | [], m, w => ([], m, w)
  | request :: requests, m, w =>
    let (outcome, m, w) := request.perform m w
    let (outcomes, m, w) := answers requests m w
    (outcome :: outcomes, m, w)

variable [Applet W α] [Network W] [Host W] {view : W → V} {waiting : Option α} {m m' : LocalManager W α} {w w' : W}

theorem send_same (hsilent : Silent α view) (hm : Agree waiting m m') (hw : view w = view w') (c : Command) :
    SameOutcome (Agree waiting) view (m.send c w) (m'.send c w') := by
  obtain ⟨hch, rfl⟩ | ⟨n, n', hch, rfl, hn⟩ := hm.none_or_held
  · rw [send_none hch, send_none rfl]
    exact ⟨rfl, hm, hw⟩
  · have hsame : SameOutcome _ view (CardChannel.transmit c n w) (CardChannel.transmit c n' w') :=
      Normalized.transmit_same hsilent hn hw c
    rw [send_some hch, send_some rfl]
    refine ⟨congrArg (Except.mapError ConnectionError.card) hsame.result, agree_held hsame.state ?_ rfl,
      hsame.world⟩
    simp only [hsame.result]

omit [Applet W α] [Network W] [Host W] in
theorem withChannel_same {β : Type}
    {call : Normalized (Backend (AppletHost α)) → W → Outcome (Normalized (Backend (AppletHost α))) W β}
    (hcall : ∀ {n n'}, SameDecorated waiting n n' → SameOutcome (SameDecorated waiting) view (call n w) (call n' w'))
    (hm : Agree waiting m m') (hw : view w = view w') :
    SameOutcome (Agree waiting) view (m.withChannel call w) (m'.withChannel call w') := by
  obtain ⟨hch, rfl⟩ | ⟨n, n', hch, rfl, hn⟩ := hm.none_or_held
  · simp only [withChannel, hch]
    exact ⟨rfl, hm, hw⟩
  · obtain ⟨hresult, hstate, hworld⟩ := hcall hn
    simp only [withChannel, hch]
    exact ⟨congrArg (Except.mapError ConnectionError.card) hresult, agree_held hstate rfl rfl, hworld⟩

theorem disconnect_same (hsilent : Silent α view) (hm : Agree waiting m m') (hw : view w = view w') (reset : Bool) :
    SameOutcome (Agree waiting) view (m.disconnect reset w) (m'.disconnect reset w') := by
  obtain ⟨hch, rfl⟩ | ⟨n, n', hch, rfl, hn⟩ := hm.none_or_held
  · simp only [disconnect, hch]
    exact ⟨rfl, ⟨none, rfl, .none⟩, hw⟩
  · obtain ⟨hresult, ⟨⟨h, h', hinner, hinner', -⟩, -⟩, hworld⟩ := Normalized.disconnect_same hsilent hn hw reset
    simp only [disconnect, hch, Normalized.release_card hinner, Normalized.release_card hinner']
    exact ⟨congrArg (Except.mapError ConnectionError.card) hresult, ⟨none, rfl, .none⟩, hworld⟩

omit [Applet W α] [Network W] [Host W] in
theorem changeOption_same (hm : Agree waiting m m') (d : OptionChange) :
    Agree waiting (m.changeOption d) (m'.changeOption d) := by
  obtain ⟨hch, rfl⟩ | ⟨n, n', hch, rfl, hn⟩ := hm.none_or_held
  · refine ⟨none, rfl, ?_⟩
    simp only [changeOption, hch]
    exact .none
  · refine ⟨some { n with options := m'.options.change d }, rfl, ?_⟩
    simp only [changeOption, hch]
    exact .some ⟨hn.card, rfl⟩

omit [Applet W α] [Network W] [Host W] in
theorem changes_same (hm : Agree waiting m m') (changes : List OptionChange) :
    Agree waiting (changes.foldl (fun m d => m.changeOption d) m)
      (changes.foldl (fun m d => m.changeOption d) m') := by
  induction changes generalizing m m' with
  | nil => exact hm
  | cons d changes ih => exact ih (changeOption_same hm d)

theorem selectApplet_same (hsilent : Silent α view) (hm : Agree waiting m m') (hw : view w = view w') :
    SameOutcome (Agree waiting) view (m.selectApplet w) (m'.selectApplet w') := by
  have haid : m.aid = m'.aid := by
    obtain ⟨channel, rfl, -⟩ := hm
    rfl
  cases ha : m'.aid with
  | none =>
    rw [selectApplet_none ha, selectApplet_none (haid.trans ha)]
    exact ⟨rfl, hm, hw⟩
  | some aid =>
    rw [selectApplet_some ha, selectApplet_some (haid.trans ha)]
    exact send_same hsilent hm hw _

theorem transmit_same (hsilent : Silent α view) (hm : Agree waiting m m') (hw : view w = view w') (c : Command) :
    SameOutcome (Agree waiting) view (m.transmit c w) (m'.transmit c w') := by
  have hstate : m.state = m'.state := by
    obtain ⟨channel, rfl, -⟩ := hm
    rfl
  unfold transmit
  rw [hstate]
  split
  · exact send_same hsilent hm hw c
  · exact ⟨rfl, hm, hw⟩

theorem perform_same (hsilent : Silent α view) {request : ManagerRequest W (AppletHost α) (AppletHost α)}
    (hr : request.IsSessionCall) (hm : Agree waiting m m') (hw : view w = view w') :
    SameOutcome (Agree waiting) view (request.perform m w) (request.perform m' w') := by
  cases request with
  | transmit c => exact SameOutcome.map _ (transmit_same hsilent hm hw c)
  | selectApplet => exact SameOutcome.map _ (selectApplet_same hsilent hm hw)
  | disconnect reset => exact SameOutcome.map _ (disconnect_same hsilent hm hw reset)
  | atr => exact SameOutcome.map _ (withChannel_same (fun hn => Normalized.atr_same hn hw) hm hw)
  | reset => exact SameOutcome.map _ (withChannel_same (fun hn => Normalized.atr_same hn hw) hm hw)
  | protocol => exact SameOutcome.map _ (withChannel_same (fun hn => Normalized.protocol_same hn hw) hm hw)
  | setAid aid =>
    obtain ⟨channel, rfl, hrel⟩ := hm
    exact ⟨rfl, ⟨channel, rfl, hrel⟩, hw⟩
  | setDoSelect doSelect =>
    obtain ⟨channel, rfl, hrel⟩ := hm
    exact ⟨rfl, ⟨channel, rfl, hrel⟩, hw⟩
  | change changes =>
    have hchanged := changes_same hm changes
    refine ⟨?_, hchanged, hw⟩
    obtain ⟨channel, heq, -⟩ := hchanged
    simp only [ManagerRequest.perform, heq]
  | _ => cases hr

theorem answers_same (hsilent : Silent α view) {requests : List (ManagerRequest W (AppletHost α) (AppletHost α))}
    (hr : ∀ r ∈ requests, r.IsSessionCall) (hm : Agree waiting m m') (hw : view w = view w') :
    SameOutcome (Agree waiting) view (answers requests m w) (answers requests m' w') := by
  induction requests generalizing m m' w w' with
  | nil => exact ⟨rfl, hm, hw⟩
  | cons request requests ih =>
    obtain ⟨hresult, hstate, hworld⟩ := perform_same hsilent (hr request List.mem_cons_self) hm hw
    obtain ⟨hresults, hstates, hworlds⟩ := ih (fun r hmem => hr r (List.mem_cons_of_mem _ hmem)) hstate hworld
    refine ⟨?_, hstates, hworlds⟩
    simp only [answers, hresult, hresults]

/-! ## Connecting -/

/-- The channel makes the selection that the simulator would make itself, whatever the options. -/
theorem transmit_selects {g h : AppletHost α} {aid : Bytes} {options : NormalizeOptions} (hsilent : Silent α view)
    (hcard : SameCard waiting g h) (hopen : h.closed = false)
    (hfits : (options.normalize (.selectAid aid)).checkLengths = .ok ()) (w : W) :
    ∃ n w', ({ inner := .inr h, options } : Normalized (Backend (AppletHost α))).transmit (.selectAid aid) w =
        (.ok (g.selectAid aid w).1, n, w') ∧
      SameDecorated waiting { inner := .inr (g.selectAid aid w).2.1, options } n ∧
      view (g.selectAid aid w).2.2 = view w' := by
  obtain ⟨hselects, hpayload⟩ := options.normalize_selectAid aid
  generalize hcommand : options.normalize (.selectAid aid) = command at hselects hpayload hfits
  generalize hv : Normalized.logIf options.debug (.request command) w = v
  have hlogged : view w = view v := by rw [← hv, Normalized.view_logIf hsilent.log]
  obtain ⟨hresult, hstate, hworld⟩ := AppletHost.selectAid_same hsilent hcard hlogged aid
  have hexchange : CardChannel.transmit command (.inr h : Backend (AppletHost α)) v =
      (.ok (h.selectAid aid v).1, .inr (h.selectAid aid v).2.1, (h.selectAid aid v).2.2) := by
    simp [CardChannel.transmit, hopen, AppletHost.dispatch, hselects, hpayload, Outcome.lift]
  have htransmit : ({ inner := .inr h, options } : Normalized (Backend (AppletHost α))).transmit (.selectAid aid) w =
      (.ok (h.selectAid aid v).1,
        { inner := .inr (h.selectAid aid v).2.1, options, lastCommand := some command
          lastDuration := Host.now (h.selectAid aid v).2.2 - Host.now v },
        Normalized.logIf options.debug
          (.answer (h.selectAid aid v).1 (Host.now (h.selectAid aid v).2.2 - Host.now v))
          (h.selectAid aid v).2.2) := by
    simp only [Normalized.transmit, Normalized.normalize, hcommand, hfits, Normalized.forward, hv, hexchange]
  rw [hresult]
  refine ⟨_, _, htransmit, ⟨⟨_, _, rfl, rfl, hstate⟩, rfl⟩, ?_⟩
  rw [Normalized.view_logIf hsilent.log]
  exact hworld

omit [Network W] [Host W] in
theorem setUp_local {s h : AppletHost α} {a : α} {aid data : Bytes} {w w₁ : W}
    (hinstall : s.installApplet aid a data w = (.ok (), h, w₁)) :
    setUp aid data true ({ s with pending := some a } : AppletHost α) w =
      (.ok (some ({ h with pending := none }.selectAid aid w₁).1, ({ h with pending := none }.selectAid aid w₁).2.1),
        ({ h with pending := none }.selectAid aid w₁).2.2) := by
  have hinstall' := AppletHost.installApplet_pending none aid a data s w
  rw [hinstall] at hinstall'
  simp only [setUp, CardSimulator.install, AppletHost.install, hinstall', CardSimulator.select, if_true]

omit [Network W] [Host W] in
theorem setUp_local_failed {s h : AppletHost α} {a : α} {aid data : Bytes} {w w₁ : W} {e : ConnectionError}
    (hinstall : s.installApplet aid a data w = (.error e, h, w₁)) :
    setUp aid data true ({ s with pending := some a } : AppletHost α) w = (.error e, w₁) := by
  have hinstall' := AppletHost.installApplet_pending none aid a data s w
  rw [hinstall] at hinstall'
  simp only [setUp, CardSimulator.install, AppletHost.install, hinstall']

theorem connectSimulator_selects {h : AppletHost α} {aid : Bytes} {response : Response}
    {n : Normalized (Backend (AppletHost α))} (hch : m.channel = none) (hauto : m.doSelect = true)
    (haid : m.aid = some aid)
    (htransmit : ({ inner := .inr h, options := m.options } : Normalized (Backend (AppletHost α))).transmit
      (.selectAid aid) w = (.ok response, n, w')) :
    m.connectSimulator h w =
      (.ok (), { m with
        selectResponse := some response, channel := some n, lastKind := some .localSimulator, state := .connected },
        w') := by
  have hreleased : m.releaseHeld w = w := by rw [releaseHeld, hch]
  have hadopt := adopt_unwrapped (k := .inr h) rfl m w
  rw [hreleased] at hadopt
  simp only [connectSimulator, CardSimulator.intoChannel, hadopt]
  have hauto' : (m.holding (.inr h)).doSelect = true := hauto
  let held : LocalManager W α := { m.holding (.inr h) with lastKind := some .localSimulator, state := .connected }
  have hsend : held.send (.selectAid aid) w = (.ok response, { held with channel := some n }, w') := by
    rw [send_some (m := held) rfl]
    simp only [CardChannel.transmit, held, holding, htransmit]
    rfl
  rw [if_pos hauto']
  have hselected := selectIfConfigured_some (m := held) haid w
  rw [hsend] at hselected
  exact hselected

theorem connect_selects {settings : Settings} {s : AppletHost α} {aid : Bytes} (hch : m.channel = none)
    (hauto : m.doSelect = true) (haid : m.aid.or settings.aid = some aid) (hsimulator : m.simulator = some s)
    (hkind : settings.kind = .localSimulator) (hselect : settings.doSelect = true) (w : W) :
    m.connect settings w =
      match setUp aid (settings.installData.getD []) true s w with
      | (.error e, w) =>
        (.error e, { m with aid := some aid, simulator := none, selectResponse := none, state := .failed }, w)
      | (.ok (response, h), w) =>
        (.ok true, { m with
          aid := some aid, simulator := none, selectResponse := response
          channel := some { inner := .inr h, options := m.options }
          lastKind := some .localSimulator, state := .connected }, w) := by
  have hprepare : m.prepare settings w =
      ({ m with aid := some aid, state := .connecting, selectResponse := none }, w) := by
    simp [prepare, hch, haid]
  rw [connect_setsUpThenHolds hkind, setUpThenHold, hprepare, haid]
  simp only [hsimulator, hauto, hselect, Bool.and_self]
  rcases setUp aid (settings.installData.getD []) true s w with ⟨e | ⟨response, h⟩, w₁⟩
  · rfl
  · simp only [CardSimulator.intoChannel]
    rw [adopt_unwrapped (k := .inr h) rfl]
    simp only [holding, releaseHeld, hch]

/-- Connecting to a simulator with an applet put up on it, and taking over one on which the applet was installed:
both fail alike in the install, or they succeed with the same manager in front of the same card, and no call of
the session after that tells one from the other. -/
theorem local_simulators_agree (hsilent : Silent α view) {m : LocalManager W α} (hch : m.channel = none)
    (hauto : m.doSelect = true) {settings : Settings} (hkind : settings.kind = .localSimulator)
    (hselect : settings.doSelect = true) {named : Option Bytes} {aid : Bytes}
    (haid : named.or settings.aid = some aid)
    (hfits : (m.options.normalize (.selectAid aid)).checkLengths = .ok ()) {s : AppletHost α}
    (hopen : s.closed = false) (a : α) (w : W) :
    let connected := { m with aid := named, simulator := some { s with pending := some a } }.connect settings w
    match s.installApplet aid a (settings.installData.getD []) w with
    | (.error e, _, w₁) => connected.1 = .error e ∧ connected.2.2 = w₁
    | (.ok (), h, w₁) =>
      let attached := { m with aid := some aid, simulator := none }.connectSimulator h w₁
      connected.1 = .ok true ∧ attached.1 = .ok () ∧
        ∀ requests : List (ManagerRequest W (AppletHost α) (AppletHost α)), (∀ r ∈ requests, r.IsSessionCall) →
          SameOutcome (Agree s.pending) view (answers requests connected.2.1 connected.2.2)
            (answers requests attached.2.1 attached.2.2) ∧
          (s.pending = none → (answers requests connected.2.1 connected.2.2).2.1.channel.map Normalized.inner =
            (answers requests attached.2.1 attached.2.2).2.1.channel.map Normalized.inner) := by
  have hconnect := connect_selects (m := { m with aid := named, simulator := some { s with pending := some a } })
    hch hauto haid rfl hkind hselect w
  have hclosed := AppletHost.installApplet_closed aid a (settings.installData.getD []) s w
  have hpending := AppletHost.installApplet_waiting aid a (settings.installData.getD []) s w
  simp only [hconnect]
  rcases hinstall : s.installApplet aid a (settings.installData.getD []) w with ⟨e | ⟨⟩, h, w₁⟩
  · simp only [setUp_local_failed hinstall, and_self]
  · rw [hinstall] at hclosed hpending
    have hcard : AppletHost.SameCard s.pending { h with pending := none } h := ⟨rfl, by rw [← hpending]⟩
    obtain ⟨n, w', htransmit, hn, hw'⟩ := transmit_selects hsilent hcard (hclosed.trans hopen) hfits w₁
    have hattach :=
      connectSimulator_selects (m := { m with aid := some aid, simulator := none }) hch hauto rfl htransmit
    simp only [setUp_local hinstall, hattach]
    refine ⟨trivial, trivial, ?_⟩
    intro requests hr
    exact agreed_on_card (answers_same hsilent hr (agree_held hn rfl rfl) hw')

open Scripted

/-- What there is to see but the log. -/
def unlogged (w : World) : World := { w with log := #[] }

theorem unlogged_record {w w' : World} (hw : unlogged w = unlogged w') (e : Event) :
    unlogged (w.record e) = unlogged (w'.record e) :=
  congrArg (VirtualCard.LocalHost.record e) hw

theorem unlogged_silent : Silent Scripted.Applet unlogged := by
  constructor
  · intro event w
    rfl
  · intro a w w' hw
    cases a with
    | fixed data => exact ⟨rfl, rfl, hw⟩
    | counting a => exact ⟨rfl, rfl, unlogged_record hw _⟩
  · intro a w w' hw
    cases a with
    | fixed data => exact ⟨rfl, rfl, hw⟩
    | counting a => exact ⟨rfl, rfl, unlogged_record hw _⟩
  · intro command a w w' hw
    cases a with
    | fixed data => exact ⟨rfl, rfl, hw⟩
    | counting a => exact ⟨rfl, rfl, unlogged_record hw _⟩

def loggingManager : LocalManager World Scripted.Applet := new true none

def localSettings : Settings where
  kind := .localSimulator
  aid := some [0xF0, 0x02]
  installData := some [0x01]

/-- Its second applet is selected, and gets replaced. -/
def usedHost : AppletHost Scripted.Applet where
  applets := [([0xF0, 0x01], .fixed [0x07]), ([0xF0, 0x02], .counting { name := "old" })]
  selected := some 1

def localCalls : List (ManagerRequest World (AppletHost Scripted.Applet) (AppletHost Scripted.Applet)) :=
  [.transmit ⟨0x80, 0x01, 0x00, 0x00, none, none⟩, .setAid (some [0xF0, 0x01]), .selectApplet, .atr, .disconnect true,
    .protocol]

theorem local_simulators_agree_replacing :
    let applet : Scripted.Applet := .counting { name := "new" }
    let connected := { loggingManager with simulator := some { usedHost with pending := some applet } }.connect
      localSettings {}
    let attached := { loggingManager with aid := some [0xF0, 0x02] }.connectSimulator
      (usedHost.installApplet [0xF0, 0x02] applet [0x01] ({} : World)).2.1
      (usedHost.installApplet [0xF0, 0x02] applet [0x01] ({} : World)).2.2
    SameOutcome (Agree none) unlogged (answers localCalls connected.2.1 connected.2.2)
        (answers localCalls attached.2.1 attached.2.2) ∧
      (answers localCalls attached.2.1 attached.2.2).2.2.events.toList =
        [.applet "new" (.install [0x01]), .applet "new" .select,
          .applet "new" (.process ⟨0x80, 0x01, 0x00, 0x00, some [], none⟩), .applet "new" .deselect] ∧
      connected.2.1.lastCommand = none ∧ attached.2.1.lastCommand = some (.selectAid [0xF0, 0x02]) := by
  have hcalls : ∀ r ∈ localCalls, r.IsSessionCall := by
    simp [localCalls, ManagerRequest.IsSessionCall]
  have hkind : localSettings.kind = .localSimulator := rfl
  have haid : (none : Option Bytes).or localSettings.aid = some [0xF0, 0x02] := rfl
  have hopen : usedHost.closed = false := rfl
  obtain ⟨-, -, hsame⟩ := local_simulators_agree unlogged_silent (m := loggingManager) rfl rfl hkind rfl haid rfl
    hopen (.counting { name := "new" }) {}
  exact ⟨(hsame localCalls hcalls).1, rfl, rfl, rfl⟩

end Manager

end CardLink
