import CardLink.Proofs.Connection.Views
import CardLink.Proofs.Normalization.Received

/-!
# A register of calls

To tell which channel a call was made on, every channel of a collaborator's gets a label, and the world a register of
what is done to labelled channels. A simulator has the label of the channel that it becomes. Nothing that is called
can read labels or the register. A manager's own sessions have no label; they are told apart by what they were made
from.
-/

namespace CardLink

open VirtualCard (Network Session)

inductive ChannelEvent where
  | call (label : Nat) (request : ChannelRequest)
  /-- The owner let go of the channel. -/
  | letGo (label : Nat)

def ChannelEvent.label : ChannelEvent → Nat
  | .call label _ | .letGo label => label

/-- A world beside its register. -/
structure Register (W : Type) where
  world : W
  events : List ChannelEvent := []

/-- A collaborator's channel or simulator with its label. -/
structure Labelled (κ : Type) where
  label : Nat
  inner : κ

section

variable {W κ ς α : Type}

namespace Register

def noted (r : Register W) (world : W) (event : ChannelEvent) : Register W := ⟨world, r.events ++ [event]⟩

/-- What was done to the channels with those labels. -/
def about (labels : List Nat) (r : Register W) : List ChannelEvent := r.events.filter fun event => event.label ∈ labels

def LetGo (labels : List Nat) (r : Register W) : Prop := ∀ label ∈ labels, .letGo label ∈ r.events

def note (request : ChannelRequest) (call : κ → W → Outcome κ W α) (k : Labelled κ) (r : Register W) :
    Outcome (Labelled κ) (Register W) α :=
  let (outcome, inner, world) := call k.inner r.world
  (outcome, { k with inner }, r.noted world (.call k.label request))

instance [Host W] : Host (Register W) where
  now r := Host.now r.world
  log event r := { r with world := Host.log event r.world }

instance [Network W] : Network (Register W) where
  resolve host port r :=
    let (outcome, world) := Network.resolve host port r.world
    (outcome, { r with world })
  dial address deadline r :=
    let (outcome, world) := Network.dial address deadline r.world
    (outcome, { r with world })
  bind port r :=
    let (outcome, world) := Network.bind port r.world
    (outcome, { r with world })
  accept port deadline r :=
    let (outcome, world) := Network.accept port deadline r.world
    (outcome, { r with world })
  hangUp id codec r := { r with world := Network.hangUp id codec r.world }
  unbind port r := { r with world := Network.unbind port r.world }

instance [ChannelTraits κ] : ChannelTraits (Labelled κ) where
  number k := ChannelTraits.number k.inner
  isWrapped k := ChannelTraits.isWrapped k.inner

instance [CardChannel W κ] : CardChannel (Register W) (Labelled κ) where
  transmit command := note (.transmit command) (CardChannel.transmit command)
  atr := note .atr CardChannel.atr
  close := note .close CardChannel.close
  protocol := note .protocol CardChannel.protocol
  beginExclusive := note .beginExclusive CardChannel.beginExclusive
  endExclusive := note .endExclusive CardChannel.endExclusive
  disconnect reset := note (.disconnect reset) (CardChannel.disconnect reset)
  release k r := r.noted (CardChannel.release k.inner r.world) (.letGo k.label)

instance [CardSimulator W ς κ] : CardSimulator (Register W) (Labelled ς) (Labelled κ) where
  install aid data s r :=
    let (outcome, inner, world) := CardSimulator.install aid data s.inner r.world
    (outcome, { s with inner }, { r with world })
  select aid s r :=
    let (outcome, inner, world) := CardSimulator.select aid s.inner r.world
    (outcome, { s with inner }, { r with world })
  intoChannel s r :=
    let (inner, world) := CardSimulator.intoChannel s.inner r.world
    (⟨s.label, inner⟩, { r with world })

variable {labels : List Nat} {r r' : Register W}

theorem about_nil (r : Register W) : r.about [] = [] := by
  simp [about]

theorem about_noted_other {event : ChannelEvent} (h : event.label ∉ labels) (r : Register W) (world : W) :
    (r.noted world event).about labels = r.about labels := by
  simp [noted, about, h]

theorem about_of_events (h : r'.events = r.events) : r'.about labels = r.about labels := by
  rw [about, about, h]

/-- Channels that were let go of stay so while nothing is done to them. -/
theorem LetGo.of_about (h : r.LetGo labels) (hsame : r'.about labels = r.about labels) : r'.LetGo labels := by
  intro label hlabel
  have hmem : ChannelEvent.letGo label ∈ r.about labels :=
    List.mem_filter.mpr ⟨h label hlabel, decide_eq_true hlabel⟩
  rw [← hsame] at hmem
  exact (List.mem_filter.mp hmem).1

end Register

/-! ## Own sessions and the register -/

/-- What a channel becomes by calls, whoever makes them. -/
inductive Becomes (W : Type) {κ : Type} [ChannelTraits κ] [CardChannel W κ] (first : κ) : κ → Prop where
  | refl : Becomes W first first
  | call {k : κ} (request : ChannelRequest) (w : W) : Becomes W first k → Becomes W first (request.perform k w).2.1

/-- Nothing that happens on the network is in the register. -/
theorem Register.events_hide_network [Network W] : HidesNetwork (Register.events : Register W → List ChannelEvent) :=
  ⟨fun _ _ _ => rfl, fun _ _ _ => rfl, fun _ _ => rfl, fun _ _ _ => rfl, fun _ _ _ => rfl, fun _ _ => rfl⟩

namespace VirtualCard.Session

variable [Network W]

theorem shut_events (s : Session) (r : Register W) : (s.shut r).2.events = r.events :=
  Register.events_hide_network.shut s r

theorem request_events (request : ChannelRequest) (s : Session) (r : Register W) :
    (request.perform s r).2.2.events = r.events :=
  Register.events_hide_network.request request s r

end VirtualCard.Session

/-! ## Other channels -/

/-- A predicate of sessions that calls do not change. -/
def Lasting (W : Type) [Network W] (own : Session → Prop) : Prop :=
  ∀ s, own s → ∀ (request : ChannelRequest) (r : Register W), own (request.perform s r).2.1

/-- An own session of that kind, or a channel with none of the labels. -/
def Other (labels : List Nat) (own : Session → Prop) : Backend (Labelled κ) → Prop
  | .inl s => own s
  | .inr k => k.label ∉ labels

variable [ChannelTraits κ] [CardChannel W κ] [Network W] {labels : List Nat} {own : Session → Prop}
  {k : Backend (Labelled κ)} {r : Register W}

omit [Network W] in
theorem labelled_request (request : ChannelRequest) (k : Labelled κ) (r : Register W) :
    (request.perform k r).2.1.label = k.label ∧
      (k.label ∉ labels → (request.perform k r).2.2.about labels = r.about labels) := by
  have hnoted : ∀ world request, k.label ∉ labels →
      (r.noted world (.call k.label request)).about labels = r.about labels := by
    intro world request hne
    apply Register.about_noted_other
    exact hne
  cases request with
  | number => exact ⟨rfl, fun _ => rfl⟩
  | isWrapped => exact ⟨rfl, fun _ => rfl⟩
  | card request =>
    cases request with
    | basicNumber => exact ⟨rfl, fun _ => rfl⟩
    | _ => exact ⟨rfl, hnoted _ _⟩
  | _ => exact ⟨rfl, hnoted _ _⟩

theorem backend_request (hown : Lasting W own) (hk : Other labels own k) (request : ChannelRequest) (r : Register W) :
    Other labels own (request.perform k r).2.1 ∧ (request.perform k r).2.2.about labels = r.about labels := by
  cases k with
  | inl s =>
    rw [ChannelRequest.perform_inl]
    exact ⟨hown s hk request r, Register.about_of_events (s.request_events request r)⟩
  | inr k =>
    obtain ⟨hlabel, habout⟩ := labelled_request request k r
    rw [ChannelRequest.perform_inr]
    refine ⟨?_, habout hk⟩
    rw [Other, hlabel]
    exact hk

omit [ChannelTraits κ] in
theorem backend_release (hk : ∀ k', k = .inr k' → k'.label ∉ labels) (r : Register W) :
    (CardChannel.release k r).about labels = r.about labels := by
  cases k with
  | inl s => exact Register.about_of_events (s.shut_events r)
  | inr k =>
    apply Register.about_noted_other
    exact hk k rfl

omit [ChannelTraits κ] [CardChannel W κ] [Network W] in
theorem Other.label_notMem (hk : Other labels own k) : ∀ k', k = .inr k' → k'.label ∉ labels := by
  rintro k' rfl
  exact hk

namespace Normalized

variable [Host W] {n : Normalized (Backend (Labelled κ))}

omit [Network W] [ChannelTraits κ] [CardChannel W κ] in
theorem about_logIf (debug : Bool) (event : LogEvent) (r : Register W) :
    (logIf debug event r).about labels = r.about labels :=
  view_logIf (fun _ _ => rfl) debug event r

theorem transmit_other (hown : Lasting W own) (hn : Other labels own n.inner) (command : Command) (r : Register W) :
    Other labels own (n.transmit command r).2.1.inner ∧ (n.transmit command r).2.2.about labels = r.about labels := by
  unfold transmit
  cases (n.normalize command).checkLengths with
  | error e => exact ⟨hn, rfl⟩
  | ok _ =>
    obtain ⟨hother, habout⟩ := backend_request hown hn (.transmit (n.normalize command))
      (logIf n.options.debug (.request (n.normalize command)) r)
    refine ⟨hother, ?_⟩
    rw [about_logIf] at habout
    exact (about_logIf _ _ _).trans habout

theorem request_other (hown : Lasting W own) (hn : Other labels own n.inner) (request : NormalizedRequest)
    (r : Register W) :
    Other labels own (request.perform n r).2.1.inner ∧ (request.perform n r).2.2.about labels = r.about labels := by
  cases request with
  | channel q =>
    cases hgiven : (NormalizedRequest.channel q).given with
    | some command =>
      rw [perform_given hgiven]
      exact transmit_other hown hn command r
    | none =>
      by_cases hflag : q = .isWrapped
      · subst hflag
        exact ⟨hn, rfl⟩
      · rw [perform_direct hgiven hflag]
        exact backend_request hown hn q r
  | inner q => exact backend_request hown hn q r
  | transmitBuffer bytes buffer =>
    simp only [NormalizedRequest.perform, transmitBuffer]
    cases Command.parse bytes with
    | error e => exact ⟨hn, rfl⟩
    | ok command =>
      have hother := transmit_other hown hn command r
      rcases heq : n.transmit command r with ⟨e | response, n', r'⟩
      · rw [heq] at hother
        simp only [heq]
        exact hother
      · rw [heq] at hother
        simp only [heq]
        split <;> exact hother
  | _ => exact ⟨hn, rfl⟩

end Normalized

end

end CardLink
