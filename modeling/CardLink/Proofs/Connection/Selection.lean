import CardLink.Proofs.Connection.Lifecycle

/-!
# Which application a connection selects

Connecting is connecting without selecting, followed by one selection over the channel; a simulator selects
before it becomes the channel. The application is the one that a manager was given, or else the first that
the settings of any connection named, since the manager keeps that one.
-/

namespace CardLink

open VirtualCard (Network)

namespace Manager

variable {W κ ς : Type} [ChannelTraits κ] [CardChannel W κ] [Network W] [Host W] [CardSimulator W ς κ]
  {m : Manager W κ ς} {w : W} {settings : Settings}

/-! ## Connecting to an application -/

/-- Connects without selecting, and then exchanges the selection if there is to be one. -/
def connectThenSelect (aid : Option Bytes) (settings : Settings) (m : Manager W κ ς) (w : W) :
    Managed W κ ς Bool :=
  let (outcome, m', w) := { m with doSelect := false }.connect settings w
  let m' := { m' with doSelect := m.doSelect }
  match outcome, if m.doSelect && settings.doSelect then aid else none with
  | .ok true, some aid =>
    match m'.send (.selectAid aid) w with
    | (.error e, m', w) => (.error e, { m' with lastKind := m.lastKind }, w)
    | (.ok response, m', w) => (.ok true, { m' with selectResponse := some response }, w)
  | outcome, _ => (outcome, m', w)

omit [ChannelTraits κ] [CardChannel W κ] [Network W] [Host W] in
/-- The simulator with the application installed and, if there is to be a selection, selected. -/
def setUp (aid data : Bytes) (doSelect : Bool) (simulator : ς) (w : W) :
    Except ConnectionError (Option Response × ς) × W :=
  match CardSimulator.install aid data simulator w with
  | (.error e, _, w) => (.error e, w)
  | (.ok (), simulator, w) =>
    if doSelect then
      match CardSimulator.select aid simulator w with
      | (.error e, _, w) => (.error e, w)
      | (.ok response, simulator, w) => (.ok (some response, simulator), w)
    else (.ok (none, simulator), w)

/-- Sets the simulator up for the application and holds it as the channel. -/
def setUpThenHold (aid : Option Bytes) (settings : Settings) (m : Manager W κ ς) (w : W) :
    Managed W κ ς Bool :=
  let (m, w) := m.prepare settings w
  match aid, m.simulator with
  | none, _ => (.error (.config .noSimulatorAid), { m with state := .failed }, w)
  | some _, none => (.error (.config .noSimulator), { m with state := .failed }, w)
  | some aid, some simulator =>
    let m := { m with simulator := none }
    match setUp aid (settings.installData.getD []) (m.doSelect && settings.doSelect) simulator w with
    | (.error e, w) => (.error e, { m with state := .failed }, w)
    | (.ok (response, simulator), w) =>
      let (k, w) := CardSimulator.intoChannel simulator w
      match { m with selectResponse := response }.adopt (.inr k) w with
      | (.error e, m, w) => (.error e, { m with state := .failed }, w)
      | (.ok (), m, w) => (.ok true, { m with lastKind := some .localSimulator, state := .connected }, w)

/-- Connects to a card and selects the application on it. -/
def connectTo (aid : Option Bytes) (settings : Settings) (m : Manager W κ ς) (w : W) :
    Managed W κ ς Bool :=
  if settings.kind = .localSimulator then m.setUpThenHold aid settings w
  else m.connectThenSelect aid settings w

omit [CardSimulator W ς κ] in
theorem adoptAndSelect_unselected (k : Backend κ) (m : Manager W κ ς) (w : W) :
    m.adoptAndSelect k false w = (m.adopt k w).map fun _ => true := by
  unfold adoptAndSelect
  rcases m.adopt k w with ⟨outcome, m', w'⟩
  cases outcome <;> rfl

theorem openSimulator_setUp {aid : Bytes} {simulator : ς} (haid : m.aid = some aid)
    (hsimulator : m.simulator = some simulator) (hresponse : m.selectResponse = none) (doSelect : Bool)
    (w : W) :
    m.openSimulator settings doSelect w =
      match setUp aid (settings.installData.getD []) doSelect simulator w with
      | (.error e, w) => (.error e, { m with simulator := none }, w)
      | (.ok (response, simulator), w) =>
        ({ m with simulator := none, selectResponse := response }.adopt
          (.inr (CardSimulator.intoChannel simulator w).1) (CardSimulator.intoChannel simulator w).2).map
            fun _ => true := by
  unfold openSimulator setUp
  rw [haid, hsimulator]
  simp only
  rcases CardSimulator.install aid (settings.installData.getD []) simulator w with ⟨installed, s, w'⟩
  cases installed with
  | error e => simp only [← haid]
  | ok _ =>
    cases doSelect with
    | false =>
      rw [← hresponse]
      exact adoptAndSelect_unselected _ _ _
    | true =>
      simp only [if_true]
      rcases CardSimulator.select aid s w' with ⟨selected, s', w''⟩
      cases selected with
      | error e => rfl
      | ok response => exact adoptAndSelect_unselected _ _ _

theorem connect_setsUpThenHolds (hkind : settings.kind = .localSimulator) (m : Manager W κ ς) (w : W) :
    m.connect settings w = m.setUpThenHold (m.aid.or settings.aid) settings w := by
  have haid : (m.prepare settings w).1.aid = m.aid.or settings.aid := by rw [prepare_eq]
  have hresponse : (m.prepare settings w).1.selectResponse = none := by rw [prepare_eq]
  rw [← haid]
  unfold connect setUpThenHold
  rcases hprepare : m.prepare settings w with ⟨m₁, w₁⟩
  rw [hprepare] at hresponse
  have hopen : m₁.openCard settings w₁ =
      m₁.openSimulator settings (m₁.doSelect && settings.doSelect) w₁ := by
    simp only [openCard, hkind]
  simp only [hopen]
  rcases Option.eq_none_or_eq_some m₁.aid with haid₁ | ⟨aid, haid₁⟩
  · simp only [openSimulator, haid₁]
  · rcases Option.eq_none_or_eq_some m₁.simulator with hsimulator | ⟨simulator, hsimulator⟩
    · simp only [openSimulator, haid₁, hsimulator]
    · rw [openSimulator_setUp haid₁ hsimulator hresponse]
      simp only [haid₁, hsimulator]
      rcases setUp aid (settings.installData.getD []) (m₁.doSelect && settings.doSelect) simulator w₁ with
        ⟨e | ⟨response, s⟩, w₂⟩
      · rfl
      · simp only [Managed.map]
        rcases adopt (.inr (CardSimulator.intoChannel s w₂).1)
          { m₁ with aid := some aid, simulator := none, selectResponse := response }
          (CardSimulator.intoChannel s w₂).2 with ⟨outcome, m₂, w₃⟩
        cases outcome with
        | error e => rfl
        | ok _ => simp [hkind, Except.map]

/-- Connecting opens the same, whether or not it will select. -/
theorem connect_opened (hkind : settings.kind ≠ .localSimulator) (m : Manager W κ ς) (w : W) :
    ∃ opened : Except ConnectionError (Option (Backend κ)) × W, ∀ doSelect : Bool,
      { m with doSelect }.connect settings w =
        let m₁ := { (m.prepare settings w).1 with doSelect }
        match opened with
        | (.error e, w) => (.error e, { m₁ with state := .failed }, w)
        | (.ok none, w) =>
          (.ok false, { m₁ with channel := none, lastKind := some settings.kind, state := .failed },
            m₁.releaseHeld w)
        | (.ok (some k), w) =>
          match m₁.adoptAndSelect k (doSelect && settings.doSelect) w with
          | (.error e, m', w) => (.error e, { m' with state := .failed }, w)
          | (.ok _, m', w) =>
            (.ok true, { m' with lastKind := some settings.kind, state := .connected }, w) := by
  obtain ⟨opened, hopened⟩ := openCard_opened hkind (m.prepare settings w).1 (m.prepare settings w).2
  refine ⟨opened, ?_⟩
  intro doSelect
  unfold connect
  simp only [prepare_doSelect, hopened]
  rcases opened with ⟨e | _ | k, w'⟩
  · rfl
  · rfl
  · simp only
    rcases hadopt : adoptAndSelect k (doSelect && settings.doSelect)
      { (m.prepare settings w).1 with doSelect } w' with ⟨e | found, m', w''⟩
    · rfl
    · have hfound : found = true := (adoptAndSelect_ok (congrArg Prod.fst hadopt)).1
      subst hfound
      rfl

omit [CardSimulator W ς κ] in
theorem adoptAndSelect_selected {k : Backend κ} (hk : ChannelTraits.isWrapped k = false) (doSelect : Bool)
    (m : Manager W κ ς) (w : W) :
    m.adoptAndSelect k doSelect w =
      match if doSelect then m.aid else none with
      | none => (.ok true, m.holding k, m.releaseHeld w)
      | some aid =>
        match (m.holding k).send (.selectAid aid) (m.releaseHeld w) with
        | (.error e, m, w) => (.error e, m, w)
        | (.ok response, m, w) => (.ok true, { m with selectResponse := some response }, w) := by
  rw [adoptAndSelect_unwrapped hk]
  cases doSelect with
  | false => rfl
  | true =>
    cases haid : m.aid with
    | none =>
      rw [selectIfConfigured_none (m := m.holding k) haid]
      rfl
    | some aid =>
      rw [selectIfConfigured_some (m := m.holding k) haid]
      simp only [if_true]
      rcases (m.holding k).send (.selectAid aid) (m.releaseHeld w) with ⟨e | response, m', w'⟩
      · rfl
      · rfl

theorem connect_thenSelects (hkind : settings.kind ≠ .localSimulator) (m : Manager W κ ς) (w : W) :
    m.connect settings w = m.connectThenSelect (m.aid.or settings.aid) settings w := by
  have haid : (m.prepare settings w).1.aid = m.aid.or settings.aid := by rw [prepare_eq]
  have hdoSelect : (m.prepare settings w).1.doSelect = m.doSelect := by rw [prepare_eq]
  have hlastKind : (m.prepare settings w).1.lastKind = m.lastKind := by rw [prepare_eq]
  obtain ⟨opened, hopened⟩ := connect_opened hkind m w
  have hselecting : m.connect settings w = _ := hopened m.doSelect
  unfold connectThenSelect
  rw [hselecting, hopened false, ← haid, ← hdoSelect, ← hlastKind]
  generalize (m.prepare settings w).1 = m₁
  rcases opened with ⟨e | _ | k, w'⟩
  · rfl
  · rfl
  · simp only
    cases hk : ChannelTraits.isWrapped k with
    | true => rw [adoptAndSelect_wrapped hk, adoptAndSelect_wrapped hk]
    | false =>
      rw [adoptAndSelect_selected hk, adoptAndSelect_selected hk]
      simp only [Bool.false_and, Bool.false_eq_true, if_false]
      cases hselected : if m₁.doSelect && settings.doSelect then m₁.aid else none with
      | none => rfl
      | some aid =>
        have hreleased : { m₁ with doSelect := false }.releaseHeld w' = m₁.releaseHeld w' := rfl
        simp only
        -- the exchange sees the channel only, so it does not matter what else was settled before it
        rw [hreleased, send_some (n := { inner := k, options := m₁.options }) rfl,
          send_some (n := { inner := k, options := m₁.options }) rfl]
        rcases CardChannel.transmit (.selectAid aid)
          ({ inner := k, options := m₁.options } : Normalized (Backend κ)) (m₁.releaseHeld w')
          with ⟨e | response, n, w''⟩
        · rfl
        · rfl

theorem connect_eq_connectTo (settings : Settings) (m : Manager W κ ς) (w : W) :
    m.connect settings w = m.connectTo (m.aid.or settings.aid) settings w := by
  unfold connectTo
  by_cases hkind : settings.kind = .localSimulator
  · rw [if_pos hkind]
    exact connect_setsUpThenHolds hkind m w
  · rw [if_neg hkind]
    exact connect_thenSelects hkind m w

omit [ChannelTraits κ] [CardChannel W κ] [Network W] [Host W] [CardSimulator W ς κ] in
theorem changes_aid (changes : List OptionChange) (m : Manager W κ ς) :
    (changes.foldl (fun m d => m.changeOption d) m).aid = m.aid := by
  induction changes generalizing m with
  | nil => rfl
  | cons d changes ih => exact ih (m.changeOption d)

omit [ChannelTraits κ] [CardChannel W κ] [Network W] [Host W] [CardSimulator W ς κ] in
theorem withChannel_aid {α : Type} (call : Normalized (Backend κ) → W → Outcome (Normalized (Backend κ)) W α)
    (m : Manager W κ ς) (w : W) : (m.withChannel call w).2.1.aid = m.aid := by
  unfold withChannel
  split <;> rfl

end Manager

/-! ## The application of a session -/

namespace ManagerRequest

variable {W κ ς : Type}

/-- The application that the settings of a connection name. -/
def namedAid : ManagerRequest W κ ς → Option Bytes
  | .connect settings => settings.aid
  | _ => none

def SetsAid : ManagerRequest W κ ς → Prop
  | .setAid _ => True
  | _ => False

variable [ChannelTraits κ] [CardChannel W κ] [Network W] [Host W] [CardSimulator W ς κ]

theorem perform_aid {request : ManagerRequest W κ ς} (hr : ¬ request.SetsAid) (m : Manager W κ ς) (w : W) :
    (request.perform m w).2.1.aid = m.aid.or request.namedAid := by
  cases request with
  | connect settings => exact (Manager.connect_keeps settings m w).aid
  | connectChannel k => exact (Manager.connectChannel_keeps k m w).aid.trans Option.or_none.symm
  | connectSimulator s => exact (Manager.connectSimulator_keeps s m w).aid.trans Option.or_none.symm
  | transmit c => exact (Manager.transmit_keeps c m w).aid.trans Option.or_none.symm
  | selectApplet => exact (Manager.selectApplet_keeps m w).aid.trans Option.or_none.symm
  | disconnect reset =>
    simp only [perform, Managed.map, Manager.disconnect_after, namedAid, Option.or_none]
  | onChannel request => exact (Manager.withChannel_aid _ m w).trans Option.or_none.symm
  | atr => exact (Manager.withChannel_aid _ m w).trans Option.or_none.symm
  | reset => exact (Manager.withChannel_aid _ m w).trans Option.or_none.symm
  | protocol => exact (Manager.withChannel_aid _ m w).trans Option.or_none.symm
  | change changes => exact (Manager.changes_aid changes m).trans Option.or_none.symm
  | setAid aid => exact absurd trivial hr
  | _ => exact Option.or_none.symm

end ManagerRequest

namespace Scripted

/-- A connector to cards that answer each selection with success. -/
def readyRemote : RemoteConnector World AnyChannel :=
  remoteConnector none fun w => (.inr (.inl { replies := [.raw [0x90, 0x00]] }), w)

def firstSettings : Settings :=
  { kind := .remote, aid := some [0xA0, 0x00, 0x00, 0x00, 0x03, 0x10, 0x10] }

def nextSettings : Settings :=
  { kind := .remote, aid := some [0xA0, 0x00, 0x00, 0x00, 0x04, 0x10, 0x10] }

def firstSession : List (ManagerRequest World AnyChannel AnySimulator) :=
  [.withRemote readyRemote, .connect firstSettings]

/-- What the next session starts from. -/
def afterFirst : Manager World AnyChannel AnySimulator × World :=
  (Manager.new false none).run {} firstSession

end Scripted

namespace Manager

open Scripted
open ManagerRequest (namedAid SetsAid)

variable {W κ ς : Type} [ChannelTraits κ] [CardChannel W κ] [Network W] [Host W] [CardSimulator W ς κ]
  {m : Manager W κ ς} {requests before : List (ManagerRequest W κ ς)}

theorem run_aid (hr : ∀ r ∈ requests, ¬ r.SetsAid) (m : Manager W κ ς) (w : W) :
    (m.run w requests).1.aid = m.aid.or (requests.findSome? namedAid) := by
  induction requests generalizing m w with
  | nil => exact (Option.or_none).symm
  | cons request requests ih =>
    have hstep := ManagerRequest.perform_aid (hr request List.mem_cons_self) m w
    have hrest := ih (fun r hmem => hr r (List.mem_cons_of_mem _ hmem)) (request.perform m w).2.1
      (request.perform m w).2.2
    rw [hstep] at hrest
    rw [run, hrest, Option.or_assoc, List.findSome?_cons]
    cases request.namedAid <;> rfl

/-- Without an identifier of its own, a manager connects to the application that the settings of its first
connections named; the ones that name another later are not followed. -/
theorem run_connects_to_first_named (hm : m.aid = none) (hr : ∀ r ∈ before, ¬ r.SetsAid) (w : W)
    (settings : Settings) :
    (m.run w before).1.connect settings (m.run w before).2 =
      (m.run w before).1.connectTo ((before.findSome? namedAid).or settings.aid) settings
        (m.run w before).2 := by
  rw [connect_eq_connectTo, run_aid hr, hm, Option.none_or]

theorem run_connects_to_first_named_remote :
    afterFirst.1.connect nextSettings afterFirst.2 =
        afterFirst.1.connectTo firstSettings.aid nextSettings afterFirst.2 ∧
      (afterFirst.1.connect nextSettings afterFirst.2).2.2.events =
        (afterFirst.2.events.push (.connectRemote nextSettings)).push
          (.transmit (.selectAid [0xA0, 0x00, 0x00, 0x00, 0x03, 0x10, 0x10])) := by
  have hsession : ∀ r ∈ firstSession, ¬ r.SetsAid := by
    intro r hmem
    simp only [firstSession, List.mem_cons, List.not_mem_nil, or_false] at hmem
    rcases hmem with rfl | rfl <;> exact id
  exact ⟨run_connects_to_first_named rfl hsession {} nextSettings, rfl⟩

/-- Along the calls, each connection connects to the application of its own settings. -/
def ConnectsToOwn (m : Manager W κ ς) (w : W) (requests : List (ManagerRequest W κ ς)) : Prop :=
  ∀ before settings after, requests = before ++ .connect settings :: after →
    (m.run w before).1.connect settings (m.run w before).2 =
      (m.run w before).1.connectTo settings.aid settings (m.run w before).2

/-- The next session selects the application of the one before it. -/
theorem next_session_selects_first :
    ¬ ConnectsToOwn (new false none) ({} : World) (firstSession ++ [.connect nextSettings]) := by
  intro h
  have hown : afterFirst.1.connect nextSettings afterFirst.2 =
      afterFirst.1.connectTo nextSettings.aid nextSettings afterFirst.2 :=
    h firstSession nextSettings [] rfl
  have hlast := congrArg (fun o => o.2.1.lastCommand) hown
  revert hlast
  decide

end Manager
end CardLink
