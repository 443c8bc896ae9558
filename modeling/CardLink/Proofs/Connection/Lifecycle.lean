import CardLink.Proofs.Connection.HeldChannel
import CardLink.Scripted.Collaborator

/-!
# What the state of a manager tells

Each call on a manager keeps the state, fails, establishes a connection or lets the channel go. So a
connected manager holds a channel, and one that is idle or was disconnected holds none; a failed one may
hold either. What is held has the manager's options and normalizes for a channel that does not. A caller's
own work on the held channel may change its options, but not the state.
-/

namespace CardLink

open VirtualCard (Network)

namespace Manager

variable {W κ ς : Type}

/-- What one call does to the state and to what is held. The flag says whether it made a connection. -/
inductive Transition (m m' : Manager W κ ς) : Bool → Prop where
  | keeps : m'.state = m.state → m'.channel.isSome = m.channel.isSome → Transition m m' false
  | fails : m'.state = .failed → Transition m m' false
  | establishes : m'.state = .connected → m'.channel.isSome = true → Transition m m' true
  | letsGo : m'.state = .disconnected → m'.channel = none → Transition m m' false

structure Settled (m : Manager W κ ς) : Prop where
  done : m.state ≠ .connecting
  holding : m.state = .connected → m.channel.isSome = true
  empty : m.state = .idle ∨ m.state = .disconnected → m.channel = none

theorem new_settled (debug : Bool) (aid : Option Bytes) : (new debug aid : Manager W κ ς).Settled := by
  refine ⟨by simp [new], by simp [new], fun _ => rfl⟩

theorem Settled.step {m m' : Manager W κ ς} {made : Bool} (hm : m.Settled) (h : Transition m m' made) :
    m'.Settled := by
  cases h with
  | keeps hstate hheld =>
    refine ⟨?_, ?_, ?_⟩
    · rw [hstate]
      exact hm.done
    · intro hconnected
      rw [hheld]
      exact hm.holding (hstate ▸ hconnected)
    · intro hempty
      have hnone := hm.empty (hstate ▸ hempty)
      rw [hnone] at hheld
      exact Option.isNone_iff_eq_none.mp (by simpa using hheld)
  | fails hstate => exact ⟨by simp [hstate], by simp [hstate], by simp [hstate]⟩
  | establishes hstate hheld => exact ⟨by simp [hstate], fun _ => hheld, by simp [hstate]⟩
  | letsGo hstate hnone => exact ⟨by simp [hstate], by simp [hstate], fun _ => hnone⟩

theorem Settled.failed_of_held {m : Manager W κ ς} (hm : m.Settled) (hstate : m.state ≠ .connected)
    (hheld : m.channel ≠ none) : m.state = .failed := by
  cases h : m.state with
  | idle => exact absurd (hm.empty (Or.inl h)) hheld
  | connecting => exact absurd h hm.done
  | connected => exact absurd h hstate
  | failed => rfl
  | disconnected => exact absurd (hm.empty (Or.inr h)) hheld

/-- Only a new connection leads to the connected state. -/
theorem Transition.unconnected {m m' : Manager W κ ς} (h : Transition m m' false)
    (hm : m.state ≠ .connected) : m'.state ≠ .connected := by
  cases h with
  | keeps hstate _ =>
    rw [hstate]
    exact hm
  | fails hstate => simp [hstate]
  | letsGo hstate _ => simp [hstate]

theorem changes_channel (changes : List OptionChange) (m : Manager W κ ς) :
    (changes.foldl (fun m d => m.changeOption d) m).state = m.state ∧
      (changes.foldl (fun m d => m.changeOption d) m).channel.isSome = m.channel.isSome := by
  induction changes generalizing m with
  | nil => exact ⟨rfl, rfl⟩
  | cons d changes ih =>
    obtain ⟨hstate, hheld⟩ := ih (m.changeOption d)
    refine ⟨hstate, hheld.trans ?_⟩
    cases h : m.channel <;> simp [changeOption, h]

end Manager

namespace ManagerRequest

variable {W κ ς : Type}

/-- Whether a call that ended so made a connection. -/
def establishes (request : ManagerRequest W κ ς) (outcome : Except ConnectionError (ManagerAnswer κ)) :
    Bool :=
  match request, outcome with
  | .connect _, .ok (.plain (.flag found)) => found
  | .connectChannel _, .ok _ | .returnChannel _, .ok _ | .connectSimulator _, .ok _ => true
  | _, _ => false

open Manager (Transition)

theorem withChannel_transition {α : Type}
    (call : Normalized (Backend κ) → W → Outcome (Normalized (Backend κ)) W α) (m : Manager W κ ς) (w : W) :
    Transition m (m.withChannel call w).2.1 false := by
  unfold Manager.withChannel
  split
  · exact .keeps rfl rfl
  · next n hch =>
    refine .keeps rfl ?_
    rw [hch]
    rfl

variable [CardChannel W κ] [Network W] [Host W]

theorem send_transition (c : Command) (m : Manager W κ ς) (w : W) :
    Transition m (m.send c w).2.1 false := by
  cases hch : m.channel with
  | none =>
    rw [Manager.send_none hch]
    exact .keeps rfl rfl
  | some n =>
    have hheld : m.channel.isSome = true := by rw [hch]; rfl
    have hstate := Manager.send_state hheld c w
    cases houtcome : (m.send c w).1 with
    | ok r =>
      rw [houtcome] at hstate
      exact .keeps hstate (Manager.send_held c m w)
    | error e =>
      rw [houtcome] at hstate
      exact .fails hstate

theorem selectApplet_transition (m : Manager W κ ς) (w : W) :
    Transition m (m.selectApplet w).2.1 false := by
  cases haid : m.aid with
  | none =>
    rw [Manager.selectApplet_none haid]
    exact .keeps rfl rfl
  | some aid =>
    rw [Manager.selectApplet_some haid]
    exact send_transition (.selectAid aid) m w

variable [ChannelTraits κ] [CardSimulator W ς κ]

theorem connect_transition (settings : Settings) (m : Manager W κ ς) (w : W) :
    Transition m (m.connect settings w).2.1
      (establishes (.connect settings : ManagerRequest W κ ς)
        ((m.connect settings w).1.map fun found => .plain (.flag found))) := by
  have h := Manager.connect_outcome settings m w
  cases houtcome : (m.connect settings w).1 with
  | error e =>
    rw [houtcome] at h
    exact .fails h
  | ok found =>
    rw [houtcome] at h
    obtain ⟨hheld, hstate⟩ := h
    cases found with
    | false => exact .fails hstate
    | true => exact .establishes hstate hheld

omit [CardSimulator W ς κ] in
theorem connectChannel_transition (k : κ) (m : Manager W κ ς) (w : W) :
    Transition m (m.connectChannel k w).2.1
      (establishes (.connectChannel k : ManagerRequest W κ ς)
        ((m.connectChannel k w).1.map fun _ => .plain .done)) := by
  unfold Manager.connectChannel
  cases hk : ChannelTraits.isWrapped (Sum.inr k : Backend κ) with
  | true =>
    rw [Manager.adopt_wrapped hk]
    exact .keeps rfl rfl
  | false =>
    rw [Manager.adopt_unwrapped hk]
    exact .establishes rfl rfl

theorem connectSimulator_transition (s : ς) (m : Manager W κ ς) (w : W) :
    Transition m (m.connectSimulator s w).2.1
      (establishes (.connectSimulator s : ManagerRequest W κ ς)
        ((m.connectSimulator s w).1.map fun _ => .plain .done)) := by
  unfold Manager.connectSimulator
  rcases CardSimulator.intoChannel s w with ⟨k, w₁⟩
  simp only
  cases hk : ChannelTraits.isWrapped (Sum.inr k : Backend κ) with
  | true =>
    rw [Manager.adopt_wrapped hk]
    exact .keeps rfl rfl
  | false =>
    rw [Manager.adopt_unwrapped hk]
    simp only
    split
    · generalize hm : ({ m.holding (.inr k) with
        lastKind := some .localSimulator, state := .connected } : Manager W κ ς) = m₁
      have hheld : m₁.channel.isSome = true := by rw [← hm]; rfl
      have hstate : m₁.state = .connected := by rw [← hm]
      obtain ⟨hheld', hstate'⟩ := Manager.selectIfConfigured_state hheld (m.releaseHeld w₁)
      rw [hstate] at hstate'
      cases houtcome : (m₁.selectIfConfigured (m.releaseHeld w₁)).1 with
      | ok _ =>
        rw [houtcome] at hstate'
        exact .establishes hstate' hheld'
      | error e =>
        rw [houtcome] at hstate'
        exact .fails hstate'
    · exact .establishes rfl rfl

theorem perform_transition (request : ManagerRequest W κ ς) (m : Manager W κ ς) (w : W) :
    Transition m (request.perform m w).2.1 (request.establishes (request.perform m w).1) := by
  cases request with
  | connect settings => exact connect_transition settings m w
  | connectChannel k => exact connectChannel_transition k m w
  | connectSimulator s => exact connectSimulator_transition s m w
  | transmit c =>
    simp only [perform, Manager.transmit]
    split
    · exact send_transition c m w
    · exact .keeps rfl rfl
  | selectApplet => exact selectApplet_transition m w
  | disconnect reset =>
    have h := Manager.disconnect_after reset m w
    exact .letsGo (congrArg Manager.state h) (congrArg Manager.channel h)
  | takeChannel => exact .letsGo rfl rfl
  | onChannel request => exact withChannel_transition _ m w
  | atr => exact withChannel_transition _ m w
  | reset => exact withChannel_transition _ m w
  | protocol => exact withChannel_transition _ m w
  | change changes =>
    obtain ⟨hstate, hheld⟩ := Manager.changes_channel changes m
    exact .keeps hstate hheld
  | _ => exact .keeps rfl rfl

end ManagerRequest

namespace Manager

variable {W κ ς : Type} [ChannelTraits κ] [CardChannel W κ] [Network W] [Host W] [CardSimulator W ς κ]
  {m : Manager W κ ς} {builders calls requests : List (ManagerRequest W κ ς)}

theorem run_settled (hm : m.Settled) (w : W) (requests : List (ManagerRequest W κ ς)) :
    (m.run w requests).1.Settled := by
  induction requests generalizing m w with
  | nil => exact hm
  | cons request requests ih => exact ih (hm.step (request.perform_transition m w)) _

theorem run_sound (hr : ∀ r ∈ requests, r.IsCall) (hm : m.Sound) (w : W) :
    (m.run w requests).1.Sound := by
  induction requests generalizing m w with
  | nil => exact hm
  | cons request requests ih =>
    have hstep := ManagerRequest.perform_sound (hr request List.mem_cons_self) hm w
    exact ih (fun r hmem => hr r (List.mem_cons_of_mem _ hmem)) hstep _

theorem run_append (m : Manager W κ ς) (w : W) (first rest : List (ManagerRequest W κ ς)) :
    m.run w (first ++ rest) = (m.run w first).1.run (m.run w first).2 rest := by
  induction first generalizing m w with
  | nil => rfl
  | cons request first ih => exact ih _ _

theorem run_builders_channel (hr : ∀ r ∈ builders, r.IsBuilder) (m : Manager W κ ς) (w : W) :
    (m.run w builders).1.channel = m.channel := by
  induction builders generalizing m w with
  | nil => rfl
  | cons request builders ih =>
    have hstep : (request.perform m w).2.1.channel = m.channel := by
      have hbuilder := hr request List.mem_cons_self
      cases request with
      | withTerminals source => rfl
      | withLegacyTerminals source => rfl
      | withSimulator simulator => rfl
      | withRemote connector => rfl
      | withOptions options => rfl
      | _ => exact hbuilder.elim
    exact (ih (fun r hmem => hr r (List.mem_cons_of_mem _ hmem)) _ _).trans hstep

/-- What the state, the held channel and the options are to each other between two calls. -/
structure Consistent (m : Manager W κ ς) : Prop extends m.Settled where
  sound : m.Sound
  unwrapped : SteadyWrapping W κ → ∀ n, m.channel = some n → ChannelTraits.isWrapped n.inner = false

/-- A connection ended as its answer says. -/
structure EndedAsTold (outcome : Except ConnectionError Bool) (m : Manager W κ ς) : Prop where
  held : ∀ found, outcome = .ok found → m.channel.isSome = found
  connected : ∀ found, outcome = .ok found → m.isConnected = found
  failed : ∀ e, outcome = .error e → m.state = .failed

theorem connect_endedAsTold (settings : Settings) (m : Manager W κ ς) (w : W) :
    EndedAsTold (m.connect settings w).1 (m.connect settings w).2.1 := by
  have h := connect_outcome settings m w
  refine ⟨?_, ?_, ?_⟩
  · intro found houtcome
    rw [houtcome] at h
    exact h.1
  · intro found houtcome
    rw [houtcome] at h
    rw [isConnected, h.2]
    cases found <;> rfl
  · intro e houtcome
    rw [houtcome] at h
    exact h

/-- However a manager was set up and used, and wherever its collaborators failed, it is consistent, and its
next connection ends as told. -/
theorem run_consistent {debug : Bool} {aid : Option Bytes} {w₀ w : W}
    (hbuilders : ∀ r ∈ builders, r.IsBuilder) (hcalls : ∀ r ∈ calls, r.IsCall)
    (hrun : (new debug aid).run w₀ (builders ++ calls) = (m, w)) :
    m.Consistent ∧
      ∀ settings, EndedAsTold (m.connect settings w).1 (m.connect settings w).2.1 := by
  obtain rfl : ((new debug aid).run w₀ (builders ++ calls)).1 = m := by rw [hrun]
  have hsettled := run_settled (new_settled debug aid) w₀ (builders ++ calls)
  have hsound : ((new debug aid).run w₀ (builders ++ calls)).1.Sound := by
    rw [run_append]
    refine run_sound hcalls (sound_of_none ?_) _
    rw [run_builders_channel hbuilders]
    rfl
  refine ⟨⟨hsettled, hsound, ?_⟩, fun settings => connect_endedAsTold settings _ w⟩
  intro hsteady n hn
  obtain ⟨-, first, hfirst, hevolves⟩ := hsound n hn
  exact (hevolves.isWrapped hsteady.backend).trans hfirst

end Manager

/-! ## A selection that fails -/

namespace Scripted

theorem simulatedCard_steady : SteadyWrapping World SimulatedCard :=
  ⟨fun _ _ _ => rfl, fun _ _ => rfl, fun _ _ => rfl⟩

theorem anyChannel_steady : SteadyWrapping World AnyChannel := by
  have hcard : SteadyWrapping World Card := ⟨fun _ _ _ => rfl, fun _ _ => rfl, fun _ _ => rfl⟩
  have hplain : SteadyWrapping World PlainCard := ⟨fun _ _ _ => rfl, fun _ _ => rfl, fun _ _ => rfl⟩
  have hnormalized : SteadyWrapping World (Normalized BareCard) :=
    ⟨fun _ _ _ => rfl, fun _ _ => rfl, fun _ _ => rfl⟩
  exact simulatedCard_steady.sum (hnormalized.sum (hcard.sum (hplain.sum simulatedCard_steady)))

/-- A connector to a card that does not answer in time. -/
def slowRemote : RemoteConnector World AnyChannel :=
  remoteConnector none fun w =>
    (.inr (.inl { replies := [.failure (.transmit .timeout), .raw [0x90, 0x00]] }), w)

def slowBuilders : List (ManagerRequest World AnyChannel AnySimulator) :=
  [.withOptions { fixLc := false }, .withRemote slowRemote]

def slowCalls : List (ManagerRequest World AnyChannel AnySimulator) :=
  [.connect { kind := .remote, aid := some [0xA0, 0x00] }, .change [.fixNe (some true)],
    .connect { kind := .remoteSimulator }]

def slowRun : Manager World AnyChannel AnySimulator × World :=
  (Manager.new false none).run {} (slowBuilders ++ slowCalls)

end Scripted

namespace Manager

open Scripted

/-- The channel whose selection failed is still held after the next connection failed, and has the options
of now. -/
theorem run_consistent_slow :
    ∃ n, slowRun.1.channel = some n ∧ slowRun.1.state = .failed ∧
      n.options = { fixLc := false, fixNe := some true } ∧ ChannelTraits.isWrapped n.inner = false := by
  have hbuilders : ∀ r ∈ slowBuilders, r.IsBuilder := by
    intro r hmem
    simp only [slowBuilders, List.mem_cons, List.not_mem_nil, or_false] at hmem
    rcases hmem with rfl | rfl <;> trivial
  have hcalls : ∀ r ∈ slowCalls, r.IsCall := by
    intro r hmem
    simp only [slowCalls, List.mem_cons, List.not_mem_nil, or_false] at hmem
    rcases hmem with rfl | rfl | rfl <;> trivial
  have hrun : (new false none).run {} (slowBuilders ++ slowCalls) = slowRun := rfl
  obtain ⟨hconsistent, -⟩ := run_consistent hbuilders hcalls hrun
  refine ⟨_, rfl, rfl, ?_, ?_⟩
  · exact (hconsistent.sound _ rfl).1
  · exact hconsistent.unwrapped anyChannel_steady _ rfl

end Manager
end CardLink
