import CardLink.Proofs.Connection.Lifecycle

/-!
# What a manager does without a connection

A manager that is not connected may still hold a channel, that of a session which failed. `transmit` does
not touch it until a new connection is made. `selectApplet` does not look at the state: as long as there is
a channel and an identifier, it goes on using the channel.
-/

namespace CardLink

open VirtualCard (Network)

namespace Scripted

def slowSession : List (ManagerRequest World AnyChannel AnySimulator) :=
  [.withRemote slowRemote, .connect { kind := .remote, doSelect := false }]

def slowCommand : Command := ⟨0x00, 0xB0, 0x00, 0x00, none, none⟩

def slowAid : Bytes := [0xA0, 0x00, 0x00, 0x00, 0x03, 0x10, 0x10]

def slowExchange : List (ManagerRequest World AnyChannel AnySimulator) :=
  slowSession ++ [.transmit slowCommand]

def slowConnected : Manager World AnyChannel AnySimulator × World :=
  (Manager.new false (some slowAid)).run {} slowSession

/-- What is left of a session whose only exchange met the deadline. -/
def slowFailed : Manager World AnyChannel AnySimulator × World :=
  (Manager.new false (some slowAid)).run {} slowExchange

/-- Calls that reach the card or try to, without making a connection. -/
def slowQuiet : List (ManagerRequest World AnyChannel AnySimulator) :=
  [.atr, .selectApplet, .connect { kind := .remoteSimulator }]

end Scripted

namespace Manager

open Scripted

variable {W κ ς : Type} [ChannelTraits κ] [CardChannel W κ] [Network W] [Host W] [CardSimulator W ς κ]
  {m : Manager W κ ς} {w₀ w : W} {debug : Bool} {aid : Option Bytes}
  {before requests : List (ManagerRequest W κ ς)}

/-! ## Exchanges -/

def NoneEstablishes (m : Manager W κ ς) (w : W) : List (ManagerRequest W κ ς) → Prop
  | [] => True
  | request :: requests =>
    request.establishes (request.perform m w).1 = false ∧
      NoneEstablishes (request.perform m w).2.1 (request.perform m w).2.2 requests

theorem run_unconnected (hm : m.state ≠ .connected) (hquiet : m.NoneEstablishes w requests) :
    (m.run w requests).1.state ≠ .connected := by
  induction requests generalizing m w with
  | nil => exact hm
  | cons request requests ih =>
    obtain ⟨hmade, hquiet⟩ := hquiet
    have hstep := request.perform_transition m w
    rw [hmade] at hstep
    exact ih (hstep.unconnected hm) hquiet

/-- An exchange that fails ends the connection. From any moment without a connection until one is made, no
exchange takes place: the channel that may be held, the manager and the world stay as they are. -/
theorem transmit_fails_fast (hrun : (new debug aid).run w₀ before = (m, w)) :
    (∀ command e, m.state = .connected → (m.transmit command w).1 = .error e →
      (m.transmit command w).2.1.state = .failed) ∧
    (m.state ≠ .connected → ∀ quiet, m.NoneEstablishes w quiet → ∀ command,
      (m.run w quiet).1.transmit command (m.run w quiet).2 =
        (.error .notConnected, (m.run w quiet).1, (m.run w quiet).2)) := by
  obtain rfl : ((new debug aid).run w₀ before).1 = m := by rw [hrun]
  constructor
  · intro command e hconnected herror
    have hheld := (run_settled (new_settled debug aid) w₀ before).holding hconnected
    rw [transmit, if_pos hconnected] at herror ⊢
    rw [send_state hheld, herror]
    rfl
  · intro hstate quiet hquiet command
    rw [transmit, if_neg (run_unconnected hstate hquiet)]

/-- The channel of the failed session is held all along, and its card would answer by now. -/
theorem transmit_fails_fast_slow :
    slowConnected.1.isConnected = true ∧
      (slowConnected.1.transmit slowCommand slowConnected.2).2 = slowFailed ∧
      slowFailed.1.state = .failed ∧
      (slowFailed.1.run slowFailed.2 slowQuiet).1.channel.isSome = true ∧
      (slowFailed.1.run slowFailed.2 slowQuiet).1.transmit slowCommand
          (slowFailed.1.run slowFailed.2 slowQuiet).2 =
        (.error .notConnected, slowFailed.1.run slowFailed.2 slowQuiet) := by
  have hconnected : (new false (some slowAid)).run {} slowSession = slowConnected := rfl
  have hfailed : (new false (some slowAid)).run {} slowExchange = slowFailed := rfl
  refine ⟨rfl, rfl, ?_, rfl, ?_⟩
  · exact (transmit_fails_fast hconnected).1 slowCommand (.card (.transmit .timeout)) rfl rfl
  · exact (transmit_fails_fast hfailed).2 (by decide) slowQuiet ⟨rfl, rfl, rfl, trivial⟩ slowCommand

/-! ## Selections -/

def RefusesSelection (m : Manager W κ ς) (w : W) : Prop :=
  ∃ e, (e = .notConnected ∨ e = .config .noAid) ∧ m.selectApplet w = (.error e, m, w)

/-- The exchange of a command that is handed to the channel inside. -/
def handedOn (command : Command) (n : Normalized (Backend κ)) (m : Manager W κ ς) (w : W) :
    Managed W κ ς Response :=
  let (result, n, w) := n.forward (n.normalize command) w
  (result.mapError .card, { m with channel := some n }, w)

omit [ChannelTraits κ] [CardSimulator W ς κ] in
theorem refusesSelection_iff : m.RefusesSelection w ↔ m.aid = none ∨ m.channel = none := by
  unfold RefusesSelection
  constructor
  · rintro ⟨e, he, heq⟩
    cases haid : m.aid with
    | none => exact Or.inl rfl
    | some identifier =>
      cases hch : m.channel with
      | none => exact Or.inr rfl
      | some n =>
        -- an exchange fails with an error of the card, never with one of the two refusals
        rw [selectApplet_some haid, send_some hch] at heq
        have houtcome := congrArg Prod.fst heq
        cases hresult : (CardChannel.transmit (.selectAid identifier) n w).1 with
        | ok r =>
          rw [hresult] at houtcome
          cases houtcome
        | error cause =>
          rw [hresult] at houtcome
          cases houtcome
          rcases he with he | he <;> cases he
  · intro h
    cases haid : m.aid with
    | none => exact ⟨.config .noAid, Or.inr rfl, selectApplet_none haid w⟩
    | some identifier =>
      have hch : m.channel = none := by simpa [haid] using h
      refine ⟨.notConnected, Or.inl rfl, ?_⟩
      rw [selectApplet_some haid, send_none hch]

omit [ChannelTraits κ] [CardSimulator W ς κ] in
/-- A failed manager exchanges a command that fits and stays failed. -/
theorem send_failed {n : Normalized (Backend κ)} (hstate : m.state = .failed) (hch : m.channel = some n)
    (command : Command) (w : W) :
    m.send command w =
      match (n.normalize command).checkLengths with
      | .ok _ => m.handedOn command n w
      | .error e => (.error (.card (.command e)), m, w) := by
  have hafter : ∀ result : Except ChannelError Response, m.state.after result = m.state := by
    intro result
    cases result with
    | ok r => rfl
    | error e => exact hstate.symm
  rw [send_some hch, hafter]
  simp only [CardChannel.transmit, Normalized.transmit]
  cases (n.normalize command).checkLengths with
  | ok _ => rfl
  | error e =>
    simp only [← hch]
    rfl

/-- Without a connection a selection is refused exactly if there is no identifier or no channel; there is
none to a manager that is idle or was disconnected. Else the state failed, and the selection is exchanged
over the channel that is left, unless it is too long. -/
theorem selectApplet_unconnected (hrun : (new debug aid).run w₀ before = (m, w))
    (hstate : m.state ≠ .connected) :
    (m.RefusesSelection w ↔ m.aid = none ∨ m.channel = none) ∧
    (m.state = .idle ∨ m.state = .disconnected → m.channel = none) ∧
    ∀ identifier n, m.aid = some identifier → m.channel = some n → m.state = .failed ∧
      m.selectApplet w =
        match (n.normalize (.selectAid identifier)).checkLengths with
        | .ok _ => m.handedOn (.selectAid identifier) n w
        | .error e => (.error (.card (.command e)), m, w) := by
  obtain rfl : ((new debug aid).run w₀ before).1 = m := by rw [hrun]
  have hsettled := run_settled (new_settled debug aid) w₀ before
  refine ⟨refusesSelection_iff, hsettled.empty, ?_⟩
  intro identifier n haid hch
  have hfailed := hsettled.failed_of_held hstate (by simp [hch])
  exact ⟨hfailed, (selectApplet_some haid w).trans (send_failed hfailed hch _ w)⟩

/-- Along the calls, a selection without a connection is refused. -/
def SelectsOnlyConnected (m : Manager W κ ς) (w : W) (requests : List (ManagerRequest W κ ς)) : Prop :=
  ∀ before after, requests = before ++ .selectApplet :: after →
    (m.run w before).1.state ≠ .connected → (m.run w before).1.RefusesSelection (m.run w before).2

/-- After a failed exchange the selection is answered by the card that was given up. -/
theorem stale_channel_is_selected :
    ¬ SelectsOnlyConnected (new false (some slowAid)) ({} : World)
      (slowExchange ++ [.selectApplet]) := by
  intro h
  have hstate : slowFailed.1.state ≠ .connected := by decide
  have hrefused : slowFailed.1.RefusesSelection slowFailed.2 :=
    h slowExchange [] rfl hstate
  rcases refusesSelection_iff.mp hrefused with haid | hch
  · cases haid
  · cases hch

theorem selectApplet_unconnected_slow :
    ∃ n, slowFailed.1.channel = some n ∧
      slowFailed.1.selectApplet slowFailed.2 =
        slowFailed.1.handedOn (.selectAid slowAid) n slowFailed.2 ∧
      (slowFailed.1.selectApplet slowFailed.2).2.2.events =
        slowFailed.2.events.push (.transmit (.selectAid slowAid)) := by
  have hrun : (new false (some slowAid)).run {} slowExchange = slowFailed := rfl
  obtain ⟨-, -, hselect⟩ := selectApplet_unconnected hrun (by decide)
  exact ⟨_, rfl, (hselect slowAid _ rfl rfl).2, rfl⟩

end Manager
end CardLink
