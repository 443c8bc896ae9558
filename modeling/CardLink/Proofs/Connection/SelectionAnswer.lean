import CardLink.Proofs.Connection.FailFast
import CardLink.Proofs.Connection.Selection

/-!
# Whose answer a manager keeps

A manager keeps the answer to the selection that was part of connecting. Connecting to settings starts anew, also
when it selects nothing; a simulator that is taken over replaces the answer only if it answered a selection, and a
channel that is adopted leaves it alone. So the answer that is kept may be from an earlier session.
-/

namespace CardLink

open VirtualCard (Network)

/-- What a selection left of the channel that was new then: it was answered over the channel, or by the simulator
before it became the channel. -/
inductive SelectedOn (W ς : Type) {κ : Type} [CardChannel W κ] [Network W] [Host W] [CardSimulator W ς κ]
    (aid : Bytes) (r : Response) (n : Normalized (Backend κ)) : Prop where
  | channel {k : Backend κ} {options : NormalizeOptions} {w w' : W}
    (h : CardChannel.transmit (.selectAid aid) ({ inner := k, options } : Normalized (Backend κ)) w = (.ok r, n, w'))
  | simulator {s s' : ς} {k : κ} {w w' w'' : W} (hselect : CardSimulator.select aid s w = (.ok r, s', w'))
    (hchannel : CardSimulator.intoChannel s' w' = (k, w'')) (hn : n.inner = .inr k)

namespace Manager

variable {W κ ς : Type} [CardChannel W κ] [Network W] [Host W] {m : Manager W κ ς} {w : W}

theorem send_selectResponse (c : Command) (m : Manager W κ ς) (w : W) :
    (m.send c w).2.1.selectResponse = m.selectResponse := by
  cases hch : m.channel with
  | none => rw [send_none hch]
  | some n => rw [send_some hch]

theorem transmit_selectResponse (c : Command) (m : Manager W κ ς) (w : W) :
    (m.transmit c w).2.1.selectResponse = m.selectResponse := by
  unfold transmit
  split
  · exact send_selectResponse c m w
  · rfl

theorem selectApplet_selectResponse (m : Manager W κ ς) (w : W) :
    (m.selectApplet w).2.1.selectResponse = m.selectResponse := by
  cases haid : m.aid with
  | none => rw [selectApplet_none haid]
  | some aid =>
    rw [selectApplet_some haid]
    exact send_selectResponse _ m w

omit [CardChannel W κ] [Network W] [Host W] in
theorem withChannel_selectResponse {α : Type}
    (call : Normalized (Backend κ) → W → Outcome (Normalized (Backend κ)) W α) (m : Manager W κ ς) (w : W) :
    (m.withChannel call w).2.1.selectResponse = m.selectResponse := by
  unfold withChannel
  split <;> rfl

omit [CardChannel W κ] [Network W] [Host W] in
theorem changes_selectResponse (changes : List OptionChange) (m : Manager W κ ς) :
    (changes.foldl (fun m d => m.changeOption d) m).selectResponse = m.selectResponse := by
  induction changes generalizing m with
  | nil => rfl
  | cons d changes ih => exact ih (m.changeOption d)

/-- The answer to a selection over the channel that was just opened. -/
def answerOver {α : Type} (aid : Option Bytes) : Managed W κ ς α → Option Response
  | (.ok _, m, w) => aid.bind fun aid => (m.send (.selectAid aid) w).1.toOption
  | (.error _, _, _) => none

variable [ChannelTraits κ] [CardSimulator W ς κ] {settings : Settings}

/-- The answer to the selection that connecting makes, if it makes one and that is answered. -/
def connectAnswer (settings : Settings) (m : Manager W κ ς) (w : W) : Option Response :=
  let aid := m.aid.or settings.aid
  let selects := m.doSelect && settings.doSelect
  if settings.kind = .localSimulator then
    let w := (m.prepare settings w).2
    match aid, m.simulator with
    | some aid, some simulator => (setUp aid (settings.installData.getD []) selects simulator w).1.toOption.bind Prod.fst
    | _, _ => none
  else answerOver (if selects then aid else none) ({ m with doSelect := false }.connect settings w)

/-- The answer to the selection that is made when a simulator is taken over. -/
def attachAnswer (simulator : ς) (m : Manager W κ ς) (w : W) : Option Response :=
  let (k, w) := CardSimulator.intoChannel simulator w
  answerOver (if m.doSelect then m.aid else none) (m.adopt (.inr k) w)

/-! ## What connecting keeps -/

omit [ChannelTraits κ] [CardSimulator W ς κ] in
/-- The answer comes from the channel alone, whatever else is settled about the manager. -/
theorem answerOver_held {α : Type} {n : Normalized (Backend κ)} (hch : m.channel = some n) (aid : Option Bytes)
    (a : α) (w : W) :
    answerOver aid ((.ok a, m, w) : Managed W κ ς α) =
      aid.bind fun aid => (CardChannel.transmit (.selectAid aid) n w).1.toOption := by
  cases aid with
  | none => rfl
  | some aid =>
    simp only [answerOver, Option.bind_some, send_some hch]
    cases (CardChannel.transmit (.selectAid aid) n w).1 <;> rfl

omit [ChannelTraits κ] [CardSimulator W ς κ] in
theorem selectIfConfigured_held {n : Normalized (Backend κ)} (hch : m.channel = some n) (w : W) :
    m.selectIfConfigured w =
      match m.aid with
      | none => (.ok (), m, w)
      | some aid =>
        match CardChannel.transmit (.selectAid aid) n w with
        | (.error e, n, w) => (.error (.card e), { m with channel := some n, state := .failed }, w)
        | (.ok r, n, w) => (.ok (), { m with channel := some n, selectResponse := some r }, w) := by
  rcases Option.eq_none_or_eq_some m.aid with haid | ⟨aid, haid⟩
  · simp only [selectIfConfigured_none haid, haid]
  · rw [selectIfConfigured_some haid, send_some hch, haid]
    simp only
    rcases CardChannel.transmit (.selectAid aid) n w with ⟨e | r, n', w'⟩ <;> rfl

omit [ChannelTraits κ] [CardSimulator W ς κ] in
theorem selectIfConfigured_selectResponse {n : Normalized (Backend κ)} (hch : m.channel = some n) (w : W) :
    (m.selectIfConfigured w).2.1.selectResponse =
      (m.aid.bind fun aid => (CardChannel.transmit (.selectAid aid) n w).1.toOption).or m.selectResponse := by
  rw [selectIfConfigured_held hch]
  cases m.aid with
  | none => rfl
  | some aid =>
    simp only [Option.bind_some]
    rcases CardChannel.transmit (.selectAid aid) n w with ⟨e | r, n', w'⟩ <;> rfl

omit [CardSimulator W ς κ] in
theorem adoptAndSelect_selectResponse {k : Backend κ} (hk : ChannelTraits.isWrapped k = false) (doSelect : Bool)
    (m : Manager W κ ς) (w : W) :
    (m.adoptAndSelect k doSelect w).2.1.selectResponse =
      ((if doSelect then m.aid else none).bind fun aid =>
        (CardChannel.transmit (.selectAid aid) ({ inner := k, options := m.options } : Normalized (Backend κ))
          (m.releaseHeld w)).1.toOption).or m.selectResponse := by
  rw [adoptAndSelect_unwrapped hk]
  cases doSelect with
  | false => rfl
  | true => exact selectIfConfigured_selectResponse (m := m.holding k) rfl (m.releaseHeld w)

omit [CardChannel W κ] [Network W] [Host W] [CardSimulator W ς κ] [ChannelTraits κ] in
/-- Connected to a simulator that was taken over, before anything was selected on it. -/
def attached (k : κ) (m : Manager W κ ς) : Manager W κ ς :=
  { m.holding (.inr k) with lastKind := some .localSimulator, state := .connected }

theorem connectSimulator_wrapped {simulator : ς} {k : κ} {w₁ : W}
    (hchannel : CardSimulator.intoChannel simulator w = (k, w₁))
    (hk : ChannelTraits.isWrapped (.inr k : Backend κ) = true) (m : Manager W κ ς) :
    m.connectSimulator simulator w = (.error (.card .doubleWrap), m, CardChannel.release (.inr k : Backend κ) w₁) ∧
      m.attachAnswer simulator w = none := by
  unfold connectSimulator attachAnswer
  rw [hchannel]
  simp only [adopt_wrapped hk]
  exact ⟨trivial, rfl⟩

theorem connectSimulator_unwrapped {simulator : ς} {k : κ} {w₁ : W}
    (hchannel : CardSimulator.intoChannel simulator w = (k, w₁))
    (hk : ChannelTraits.isWrapped (.inr k : Backend κ) = false) (m : Manager W κ ς) :
    m.connectSimulator simulator w =
        (if m.doSelect then (m.attached k).selectIfConfigured (m.releaseHeld w₁)
          else (.ok (), m.attached k, m.releaseHeld w₁)) ∧
      m.attachAnswer simulator w =
        (if m.doSelect then m.aid else none).bind fun aid =>
          (CardChannel.transmit (.selectAid aid) ({ inner := .inr k, options := m.options } : Normalized (Backend κ))
            (m.releaseHeld w₁)).1.toOption := by
  unfold connectSimulator attachAnswer
  rw [hchannel]
  simp only [adopt_unwrapped hk]
  exact ⟨rfl, answerOver_held rfl _ _ _⟩

theorem connectSimulator_selectResponse (simulator : ς) (m : Manager W κ ς) (w : W) :
    (m.connectSimulator simulator w).2.1.selectResponse = (m.attachAnswer simulator w).or m.selectResponse := by
  rcases hchannel : CardSimulator.intoChannel simulator w with ⟨k, w₁⟩
  cases hk : ChannelTraits.isWrapped (.inr k : Backend κ) with
  | true =>
    obtain ⟨hconnect, hanswer⟩ := connectSimulator_wrapped hchannel hk m
    rw [hconnect, hanswer, Option.none_or]
  | false =>
    obtain ⟨hconnect, hanswer⟩ := connectSimulator_unwrapped hchannel hk m
    rw [hconnect, hanswer]
    cases m.doSelect with
    | false => rfl
    | true => exact selectIfConfigured_selectResponse (m := m.attached k) rfl (m.releaseHeld w₁)

theorem setUpThenHold_selectResponse (aid : Option Bytes) (settings : Settings) (m : Manager W κ ς) (w : W) :
    (m.setUpThenHold aid settings w).2.1.selectResponse =
      match aid, m.simulator with
      | some aid, some simulator =>
        (setUp aid (settings.installData.getD []) (m.doSelect && settings.doSelect) simulator
          (m.prepare settings w).2).1.toOption.bind Prod.fst
      | _, _ => none := by
  have hresponse : (m.prepare settings w).1.selectResponse = none := by rw [prepare_eq]
  have hsimulator : (m.prepare settings w).1.simulator = m.simulator := by rw [prepare_eq]
  have hauto : (m.prepare settings w).1.doSelect = m.doSelect := by rw [prepare_eq]
  unfold setUpThenHold
  rw [← hsimulator, ← hauto]
  generalize m.prepare settings w = prepared at hresponse
  obtain ⟨m₁, w₁⟩ := prepared
  cases aid with
  | none => exact hresponse
  | some aid =>
    cases hs : m₁.simulator with
    | none =>
      simp only [hs]
      exact hresponse
    | some simulator =>
      simp only [hs]
      rcases setUp aid (settings.installData.getD []) (m₁.doSelect && settings.doSelect) simulator w₁ with
        ⟨e | ⟨response, s⟩, w₂⟩
      · exact hresponse
      · cases hk : ChannelTraits.isWrapped (.inr (CardSimulator.intoChannel s w₂).1 : Backend κ) with
        | true =>
          simp only [adopt_wrapped hk]
          rfl
        | false =>
          simp only [adopt_unwrapped hk]
          rfl

theorem connect_selectResponse (settings : Settings) (m : Manager W κ ς) (w : W) :
    (m.connect settings w).2.1.selectResponse = m.connectAnswer settings w := by
  unfold connectAnswer
  by_cases hkind : settings.kind = .localSimulator
  · rw [connect_setsUpThenHolds hkind, if_pos hkind, setUpThenHold_selectResponse]
  · have hresponse : (m.prepare settings w).1.selectResponse = none := by rw [prepare_eq]
    have haid : (m.prepare settings w).1.aid = m.aid.or settings.aid := by rw [prepare_eq]
    obtain ⟨opened, hopened⟩ := connect_opened hkind m w
    have hselecting : m.connect settings w = _ := hopened m.doSelect
    have hauto : (m.prepare settings w).1.doSelect = m.doSelect := by rw [prepare_eq]
    rw [if_neg hkind, hselecting, hopened false, ← haid, ← hauto]
    generalize (m.prepare settings w).1 = m₁ at hresponse
    rcases opened with ⟨e | _ | k, w'⟩
    · exact hresponse
    · -- without a card there is nothing to select on
      cases if m₁.doSelect && settings.doSelect then m₁.aid else none <;> exact hresponse
    · simp only
      cases hk : ChannelTraits.isWrapped k with
      | true =>
        rw [adoptAndSelect_wrapped hk, adoptAndSelect_wrapped hk]
        exact hresponse
      | false =>
        have hselected := adoptAndSelect_selectResponse hk (m₁.doSelect && settings.doSelect) m₁ w'
        rw [hresponse, Option.or_none] at hselected
        rw [adoptAndSelect_unwrapped (m := { m₁ with doSelect := false }) hk]
        simp only [Bool.false_and, Bool.false_eq_true, if_false]
        rw [answerOver_held rfl]
        rcases hopen : m₁.adoptAndSelect k (m₁.doSelect && settings.doSelect) w' with ⟨outcome, m₂, w₂⟩
        rw [hopen] at hselected
        cases outcome with
        | error e => exact hselected
        | ok found => exact hselected

/-! ## Where an answer is from -/

/-- The manager holds the channel that the answer is from. -/
def Selected (r : Response) (m : Manager W κ ς) : Prop :=
  ∃ n aid, m.channel = some n ∧ SelectedOn W ς aid r n

omit [ChannelTraits κ] in
theorem selectIfConfigured_selected {k : Backend κ} {options : NormalizeOptions} {r : Response}
    (hch : m.channel = some { inner := k, options })
    (h : (m.aid.bind fun aid => (CardChannel.transmit (.selectAid aid)
      ({ inner := k, options } : Normalized (Backend κ)) w).1.toOption) = some r) :
    (m.selectIfConfigured w).2.1.Selected r := by
  rw [selectIfConfigured_held hch]
  cases haid : m.aid with
  | none =>
    rw [haid] at h
    cases h
  | some aid =>
    rw [haid] at h
    simp only [Option.bind_some] at h ⊢
    rcases htransmit : CardChannel.transmit (.selectAid aid) ({ inner := k, options } : Normalized (Backend κ)) w with
      ⟨e | r', n, w'⟩
    · rw [htransmit] at h
      cases h
    · rw [htransmit] at h
      cases h
      exact ⟨n, aid, rfl, .channel htransmit⟩

theorem attachAnswer_selected {simulator : ς} {r : Response} (h : m.attachAnswer simulator w = some r) :
    (m.connectSimulator simulator w).2.1.Selected r := by
  rcases hchannel : CardSimulator.intoChannel simulator w with ⟨k, w₁⟩
  cases hk : ChannelTraits.isWrapped (.inr k : Backend κ) with
  | true =>
    rw [(connectSimulator_wrapped hchannel hk m).2] at h
    cases h
  | false =>
    obtain ⟨hconnect, hanswer⟩ := connectSimulator_unwrapped hchannel hk m
    rw [hanswer] at h
    rw [hconnect]
    cases hauto : m.doSelect with
    | false =>
      rw [hauto] at h
      cases h
    | true =>
      rw [hauto] at h
      exact selectIfConfigured_selected (m := m.attached k) rfl h

omit [CardChannel W κ] [Network W] [Host W] [ChannelTraits κ] in
theorem setUp_selected {aid data : Bytes} {doSelect : Bool} {simulator s : ς} {w w' : W} {r : Response}
    (h : setUp aid data doSelect simulator w = (.ok (some r, s), w')) :
    ∃ s₁ w₁, CardSimulator.select aid s₁ w₁ = (.ok r, s, w') := by
  unfold setUp at h
  rcases hinstall : CardSimulator.install aid data simulator w with ⟨e | _, s₁, w₁⟩
  · rw [hinstall] at h
    cases h
  · rw [hinstall] at h
    cases doSelect with
    | false => cases h
    | true =>
      simp only [if_true] at h
      rcases hselect : CardSimulator.select aid s₁ w₁ with ⟨e | r', s₂, w₂⟩
      · rw [hselect] at h
        cases h
      · rw [hselect] at h
        cases h
        exact ⟨s₁, w₁, hselect⟩

theorem setUpThenHold_selected (aid : Option Bytes) (settings : Settings) (m : Manager W κ ς) (w : W) :
    ∀ found r, (m.setUpThenHold aid settings w).1 = .ok found →
      (m.setUpThenHold aid settings w).2.1.selectResponse = some r →
      (m.setUpThenHold aid settings w).2.1.Selected r := by
  unfold setUpThenHold
  rcases m.prepare settings w with ⟨m₁, w₁⟩
  intro found r
  cases aid with
  | none =>
    intro houtcome
    cases houtcome
  | some aid =>
    cases hsimulator : m₁.simulator with
    | none =>
      simp only [hsimulator]
      intro houtcome
      cases houtcome
    | some simulator =>
      simp only [hsimulator]
      rcases hsetUp : setUp aid (settings.installData.getD []) (m₁.doSelect && settings.doSelect) simulator w₁ with
        ⟨e | ⟨response, s⟩, w₂⟩
      · intro houtcome
        cases houtcome
      · simp only
        rcases hchannel : CardSimulator.intoChannel s w₂ with ⟨k, w₃⟩
        cases hk : ChannelTraits.isWrapped (.inr k : Backend κ) with
        | true =>
          simp only [adopt_wrapped hk]
          intro houtcome
          cases houtcome
        | false =>
          simp only [adopt_unwrapped hk]
          intro _ hresponse
          obtain rfl : response = some r := hresponse
          obtain ⟨s₁, w₁, hselect⟩ := setUp_selected hsetUp
          exact ⟨_, aid, rfl, .simulator hselect hchannel rfl⟩

theorem connectAnswer_selected {r : Response} {found : Bool} (houtcome : (m.connect settings w).1 = .ok found)
    (h : m.connectAnswer settings w = some r) : (m.connect settings w).2.1.Selected r := by
  by_cases hkind : settings.kind = .localSimulator
  · rw [← connect_selectResponse] at h
    rw [connect_setsUpThenHolds hkind] at houtcome h ⊢
    exact setUpThenHold_selected _ settings m w found r houtcome h
  · unfold connectAnswer at h
    rw [if_neg hkind] at h
    have haid : (m.prepare settings w).1.aid = m.aid.or settings.aid := by rw [prepare_eq]
    have hauto : (m.prepare settings w).1.doSelect = m.doSelect := by rw [prepare_eq]
    obtain ⟨opened, hopened⟩ := connect_opened hkind m w
    have hselecting : m.connect settings w = _ := hopened m.doSelect
    rw [hselecting] at houtcome ⊢
    rw [hopened false, ← haid, ← hauto] at h
    rw [← hauto] at houtcome ⊢
    generalize (m.prepare settings w).1 = m₁ at h houtcome ⊢
    rcases opened with ⟨e | _ | k, w'⟩
    · cases houtcome
    · -- nothing is held, so nothing answers
      cases hselects : if m₁.doSelect && settings.doSelect then m₁.aid else none with
      | none =>
        rw [hselects] at h
        cases h
      | some aid =>
        rw [hselects] at h
        cases h
    · simp only at houtcome h ⊢
      cases hk : ChannelTraits.isWrapped k with
      | true =>
        rw [adoptAndSelect_wrapped hk] at houtcome
        cases houtcome
      | false =>
        rw [adoptAndSelect_unwrapped (m := { m₁ with doSelect := false }) hk] at h
        simp only [Bool.false_and, Bool.false_eq_true, if_false] at h
        have hreleased : { m₁ with doSelect := false }.releaseHeld w' = m₁.releaseHeld w' := rfl
        rw [answerOver_held rfl, hreleased] at h
        rw [adoptAndSelect_unwrapped (m := m₁) hk] at houtcome ⊢
        cases hselects : m₁.doSelect && settings.doSelect with
        | false =>
          rw [hselects] at h
          cases h
        | true =>
          rw [hselects] at h houtcome
          simp only [if_true] at h houtcome ⊢
          have hselected := selectIfConfigured_selected (m := m₁.holding k) rfl h
          rcases hopen : (m₁.holding k).selectIfConfigured (m₁.releaseHeld w') with ⟨outcome, m₂, w₂⟩
          rw [hopen] at hselected houtcome
          cases outcome with
          | error e => cases houtcome
          | ok _ => exact hselected

end Manager

namespace ManagerRequest

variable {W κ ς : Type} [ChannelTraits κ] [CardChannel W κ] [Network W] [Host W] [CardSimulator W ς κ]

/-- The answer to the selection that is part of the call, if it makes one and that is answered. -/
def answer (request : ManagerRequest W κ ς) (m : Manager W κ ς) (w : W) : Option Response :=
  match request with
  | .connect settings => m.connectAnswer settings w
  | .connectSimulator simulator => m.attachAnswer simulator w
  | _ => none

/-- What the call puts in the place of the answer that is kept, if it touches that. -/
def records (request : ManagerRequest W κ ς) (m : Manager W κ ς) (w : W) : Option (Option Response) :=
  match request with
  | .connect _ => some (request.answer m w)
  | _ => (request.answer m w).map some

theorem perform_selectResponse (request : ManagerRequest W κ ς) (m : Manager W κ ς) (w : W) :
    (request.perform m w).2.1.selectResponse = (request.records m w).getD m.selectResponse := by
  cases request with
  | connect settings => exact Manager.connect_selectResponse settings m w
  | connectSimulator s =>
    have h := Manager.connectSimulator_selectResponse s m w
    simp only [records, answer]
    cases hanswer : m.attachAnswer s w with
    | none =>
      rw [hanswer] at h
      exact h
    | some r =>
      rw [hanswer] at h
      exact h
  | connectChannel k =>
    simp only [perform, Managed.map, Manager.connectChannel]
    cases hk : ChannelTraits.isWrapped (Sum.inr k : Backend κ) with
    | true =>
      rw [Manager.adopt_wrapped hk]
      rfl
    | false =>
      rw [Manager.adopt_unwrapped hk]
      rfl
  | transmit c => exact Manager.transmit_selectResponse c m w
  | selectApplet => exact Manager.selectApplet_selectResponse m w
  | disconnect reset =>
    simp only [perform, Managed.map, Manager.disconnect_after]
    rfl
  | onChannel request => exact Manager.withChannel_selectResponse _ m w
  | atr => exact Manager.withChannel_selectResponse _ m w
  | reset => exact Manager.withChannel_selectResponse _ m w
  | protocol => exact Manager.withChannel_selectResponse _ m w
  | change changes => exact Manager.changes_selectResponse changes m
  | _ => rfl

theorem attachAnswer_refused {simulator : ς} {m : Manager W κ ς} {w : W} {e : ConnectionError}
    (h : (m.connectSimulator simulator w).1 = .error e) : m.attachAnswer simulator w = none := by
  rcases hchannel : CardSimulator.intoChannel simulator w with ⟨k, w₁⟩
  cases hk : ChannelTraits.isWrapped (.inr k : Backend κ) with
  | true => exact (Manager.connectSimulator_wrapped hchannel hk m).2
  | false =>
    obtain ⟨hconnect, hanswer⟩ := Manager.connectSimulator_unwrapped hchannel hk m
    rw [hconnect] at h
    rw [hanswer]
    cases hauto : m.doSelect with
    | false => rfl
    | true =>
      rw [hauto, if_pos rfl, Manager.selectIfConfigured_held (m := m.attached k) rfl] at h
      have hsame : (m.attached k).aid = m.aid := rfl
      rw [hsame] at h
      cases haid : m.aid with
      | none => rfl
      | some aid =>
        rw [haid] at h
        simp only [if_true, Option.bind_some] at h ⊢
        rcases htransmit : CardChannel.transmit (.selectAid aid)
          ({ inner := .inr k, options := m.options } : Normalized (Backend κ)) (m.releaseHeld w₁) with ⟨e' | r, n, w₂⟩
        · rfl
        · rw [htransmit] at h
          cases h

/-- A call after which a manager is connected, and that did not make the connection, leaves the answer alone. -/
theorem records_of_quiet {request : ManagerRequest W κ ς} {m : Manager W κ ς} {w : W}
    (hquiet : request.establishes (request.perform m w).1 = false)
    (hstate : (request.perform m w).2.1.state = .connected) : request.records m w = none := by
  cases request with
  | connect settings =>
    have h := Manager.connect_outcome settings m w
    simp only [perform, Managed.map] at hquiet hstate
    cases houtcome : (m.connect settings w).1 with
    | error e =>
      rw [houtcome] at h
      rw [h] at hstate
      cases hstate
    | ok found =>
      rw [houtcome] at h hquiet
      obtain rfl : found = false := hquiet
      rw [h.2] at hstate
      cases hstate
  | connectSimulator simulator =>
    simp only [perform, Managed.map] at hquiet
    cases houtcome : (m.connectSimulator simulator w).1 with
    | error e => simp only [records, answer, attachAnswer_refused houtcome, Option.map_none]
    | ok _ =>
      rw [houtcome] at hquiet
      cases hquiet
  | _ => rfl

/-- A call that made a connection holds the channel that its answer is from. -/
theorem answer_selected {request : ManagerRequest W κ ς} {m : Manager W κ ς} {w : W} {r : Response}
    (hmade : request.establishes (request.perform m w).1 = true) (h : request.answer m w = some r) :
    (request.perform m w).2.1.Selected r := by
  cases request with
  | connect settings =>
    simp only [perform, Managed.map] at hmade
    cases houtcome : (m.connect settings w).1 with
    | error e =>
      rw [houtcome] at hmade
      cases hmade
    | ok found => exact Manager.connectAnswer_selected houtcome h
  | connectSimulator simulator => exact Manager.attachAnswer_selected h
  | _ => cases h

/-- Connecting to settings is the one way to connect that forgets the answer before. -/
def Forgets : ManagerRequest W κ ς → Prop
  | .connect _ => True
  | _ => False

theorem keeps_own_iff (request : ManagerRequest W κ ς) (m : Manager W κ ς) (w : W) :
    (request.records m w).getD m.selectResponse = request.answer m w ↔
      request.Forgets ∨ request.answer m w ≠ none ∨ m.selectResponse = none := by
  by_cases hforgets : request.Forgets
  · cases request with
    | connect settings => exact ⟨fun _ => Or.inl hforgets, fun _ => rfl⟩
    | _ => exact hforgets.elim
  · have hrecords : request.records m w = (request.answer m w).map some := by
      cases request with
      | connect settings => exact absurd trivial hforgets
      | _ => rfl
    rw [hrecords]
    cases request.answer m w with
    | none => simp [hforgets]
    | some r => simp

end ManagerRequest

namespace Manager

variable {W κ ς : Type} [ChannelTraits κ] [CardChannel W κ] [Network W] [Host W] [CardSimulator W ς κ]
  {m : Manager W κ ς} {w₀ w : W} {debug : Bool} {aid : Option Bytes}
  {requests calls : List (ManagerRequest W κ ς)}

/-! ## Along the calls -/

/-- What the calls put in the place of the answer, in order. -/
def recorded (m : Manager W κ ς) (w : W) : List (ManagerRequest W κ ς) → List (Option Response)
  | [] => []
  | request :: requests =>
    (request.records m w).toList ++ recorded (request.perform m w).2.1 (request.perform m w).2.2 requests

theorem run_selectResponse (m : Manager W κ ς) (w : W) (requests : List (ManagerRequest W κ ς)) :
    (m.run w requests).1.selectResponse = (m.recorded w requests).getLast?.getD m.selectResponse := by
  induction requests generalizing m w with
  | nil => rfl
  | cons request requests ih =>
    rw [run, ih, recorded, List.getLast?_append, request.perform_selectResponse]
    cases (recorded (request.perform m w).2.1 (request.perform m w).2.2 requests).getLast? with
    | some r => rfl
    | none => cases request.records m w <;> rfl

theorem recorded_quiet (hquiet : m.NoneEstablishes w requests) (hstate : (m.run w requests).1.state = .connected) :
    m.recorded w requests = [] := by
  induction requests generalizing m w with
  | nil => rfl
  | cons request requests ih =>
    obtain ⟨hmade, hquiet⟩ := hquiet
    have hstill : (request.perform m w).2.1.state = .connected := by
      by_cases h : (request.perform m w).2.1.state = .connected
      · exact h
      · have hlost := run_unconnected h hquiet
        exact absurd hstate hlost
    rw [recorded, ManagerRequest.records_of_quiet hmade hstill, ih hquiet hstate]
    rfl

/-- After the first calls this one makes a connection, and none of the calls after it makes another. -/
def LastToConnect (m : Manager W κ ς) (w : W) (before : List (ManagerRequest W κ ς))
    (request : ManagerRequest W κ ς) (after : List (ManagerRequest W κ ς)) : Prop :=
  let (m, w) := m.run w before
  request.establishes (request.perform m w).1 = true ∧
    NoneEstablishes (request.perform m w).2.1 (request.perform m w).2.2 after

theorem exists_lastToConnect (m : Manager W κ ς) (w : W) (requests : List (ManagerRequest W κ ς)) :
    m.NoneEstablishes w requests ∨
      ∃ before request after, requests = before ++ request :: after ∧ m.LastToConnect w before request after := by
  induction requests generalizing m w with
  | nil => exact Or.inl trivial
  | cons request requests ih =>
    rcases ih (request.perform m w).2.1 (request.perform m w).2.2 with hquiet | ⟨before, last, after, rfl, hlast⟩
    · cases hmade : request.establishes (request.perform m w).1 with
      | false => exact Or.inl ⟨hmade, hquiet⟩
      | true => exact Or.inr ⟨[], request, requests, rfl, hmade, hquiet⟩
    · exact Or.inr ⟨request :: before, last, after, rfl, hlast⟩

/-- A manager keeps the last answer that was put down. While it is connected, the one connection since is that
of the call that made it last; the answer kept is that call's own exactly if the call starts anew, was answered
itself, or found no answer from before. Its own answer is from the channel that it held then. -/
theorem kept_answer_of_connection (hrun : (new debug aid).run w₀ calls = (m, w)) :
    m.selectResponse = ((new debug aid).recorded w₀ calls).getLast?.join ∧
    (m.state = .connected → ∃ before request after,
      calls = before ++ request :: after ∧ (new debug aid).LastToConnect w₀ before request after ∧
      let (m', w') := (new debug aid).run w₀ before
      m.selectResponse = (request.records m' w').getD m'.selectResponse ∧
      (m.selectResponse = request.answer m' w' ↔
        request.Forgets ∨ request.answer m' w' ≠ none ∨ m'.selectResponse = none) ∧
      ∀ r, request.answer m' w' = some r → (request.perform m' w').2.1.Selected r) := by
  obtain rfl : ((new debug aid).run w₀ calls).1 = m := by rw [hrun]
  constructor
  · rw [run_selectResponse]
    cases (recorded (new debug aid) w₀ calls).getLast? <;> rfl
  · intro hstate
    rcases exists_lastToConnect (new debug aid) w₀ calls with hquiet | ⟨before, request, after, rfl, hlast⟩
    · exact absurd hstate (run_unconnected (by simp [new]) hquiet)
    · refine ⟨before, request, after, rfl, hlast, ?_⟩
      rw [run_append, run] at hstate ⊢
      unfold LastToConnect at hlast
      generalize (new debug aid).run w₀ before = earlier at hstate hlast ⊢
      obtain ⟨m', w'⟩ := earlier
      obtain ⟨hmade, hquiet⟩ := hlast
      have hkept : ((request.perform m' w').2.1.run (request.perform m' w').2.2 after).1.selectResponse =
          (request.records m' w').getD m'.selectResponse := by
        rw [run_selectResponse, recorded_quiet hquiet hstate]
        exact request.perform_selectResponse m' w'
      refine ⟨hkept, ?_, fun r h => request.answer_selected hmade h⟩
      simp only [hkept]
      exact request.keeps_own_iff m' w'

end Manager

namespace Scripted

def nextCard : AnyChannel := .inr (.inr (.inl { replies := [.raw [0x90, 0x00]] }))

/-- A session that selected its application, and one over a channel of the caller's. -/
def adoptedAfterFirst : List (ManagerRequest World AnyChannel AnySimulator) :=
  firstSession ++ [.connectChannel nextCard]

def afterAdopted : Manager World AnyChannel AnySimulator × World :=
  (Manager.new false none).run {} adoptedAfterFirst

end Scripted

namespace Manager

open Scripted

variable {W κ ς : Type} [ChannelTraits κ] [CardChannel W κ] [Network W] [Host W] [CardSimulator W ς κ]

theorem kept_answer_of_connection_adopted :
    afterAdopted.1.state = .connected ∧
      afterAdopted.1.selectResponse = ((new false none).recorded ({} : World) adoptedAfterFirst).getLast?.join ∧
      ∃ before request after, adoptedAfterFirst = before ++ request :: after ∧
        (new false none).LastToConnect ({} : World) before request after := by
  have hrun : (new false none).run {} adoptedAfterFirst = afterAdopted := rfl
  obtain ⟨hkept, hmade⟩ := kept_answer_of_connection hrun
  obtain ⟨before, request, after, hcalls, hlast, -⟩ := hmade rfl
  exact ⟨rfl, hkept, before, request, after, hcalls, hlast⟩

/-- While the manager is connected, the answer that it keeps is from the call that connected it. -/
def KeepsOwnAnswer (m : Manager W κ ς) (w : W) (requests : List (ManagerRequest W κ ς)) : Prop :=
  ∀ before request after, requests = before ++ request :: after → m.LastToConnect w before request after →
    (m.run w requests).1.state = .connected →
      (m.run w requests).1.selectResponse = request.answer (m.run w before).1 (m.run w before).2

/-- A channel that is adopted comes with the answer of the session before. -/
theorem adopted_channel_keeps_foreign_answer :
    ¬ KeepsOwnAnswer (new false none) ({} : World) adoptedAfterFirst := by
  intro h
  have hown : afterAdopted.1.selectResponse = none :=
    h firstSession (.connectChannel nextCard) [] rfl ⟨rfl, trivial⟩ rfl
  revert hown
  decide

end Manager
end CardLink
