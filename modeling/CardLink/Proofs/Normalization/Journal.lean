import CardLink.Connection.Settings
import CardLink.Connection.Simulator
import CardLink.Normalization.Channel
import CardLink.VirtualCard.Network

/-!
# Journals

A world is kept beside a journal of every call that leaves for it and of every event of the debug log, in the order
they are made. Nothing that is called can read the journal, so a call does the same whatever events were put down
before it.
-/

namespace CardLink

open VirtualCard (Address Network)

/-! ## Journals -/

/-- A call that leaves for the world: on a channel or a simulator of a collaborator's, on the collaborator, or on
the network. -/
inductive OutwardCall where
  | channel (request : ChannelRequest)
  | release
  | install (aid data : Bytes)
  | select (aid : Bytes)
  | intoChannel
  | terminals
  | connect (terminal : String)
  | connectRemote (settings : Settings)
  | resolve (host : String) (port : Nat)
  | dial (address : Address) (deadline : Option Nat)
  | bind (port : Nat)
  | accept (port : Nat) (deadline : Option Nat)
  | hangUp (id : Nat) (codec : Codec)
  | unbind (port : Nat)

/-- Hands no command to a channel. -/
def OutwardCall.Aside : OutwardCall → Prop
  | .channel (.transmit _) => False
  | _ => True

inductive Entry where
  | call (c : OutwardCall)
  | event (e : LogEvent)

def Entry.call? : Entry → Option OutwardCall
  | .call c => some c
  | .event _ => none

/-- A world beside its journal. -/
structure Journal (W : Type) where
  world : W
  entries : List Entry := []

/-- A collaborator's channel or simulator whose calls are put down. -/
structure Outside (κ : Type) where
  inner : κ

section

variable {W κ ς α : Type}

namespace Journal

def called (r : Journal W) (world : W) (c : OutwardCall) : Journal W := ⟨world, r.entries ++ [.call c]⟩

def calls (r : Journal W) : List OutwardCall := r.entries.filterMap Entry.call?

/-- The journal without the debug log. -/
def quiet (r : Journal W) : Journal W := { r with entries := r.calls.map .call }

def watch (c : OutwardCall) (call : κ → W → Outcome κ W α) (k : Outside κ) (r : Journal W) :
    Outcome (Outside κ) (Journal W) α :=
  let (outcome, inner, world) := call k.inner r.world
  (outcome, ⟨inner⟩, r.called world c)

instance [Host W] : Host (Journal W) where
  now r := Host.now r.world
  log e r := { r with entries := r.entries ++ [.event e] }

instance [Network W] : Network (Journal W) where
  resolve host port r :=
    let (outcome, world) := Network.resolve host port r.world
    (outcome, r.called world (.resolve host port))
  dial address deadline r :=
    let (outcome, world) := Network.dial address deadline r.world
    (outcome, r.called world (.dial address deadline))
  bind port r :=
    let (outcome, world) := Network.bind port r.world
    (outcome, r.called world (.bind port))
  accept port deadline r :=
    let (outcome, world) := Network.accept port deadline r.world
    (outcome, r.called world (.accept port deadline))
  hangUp id codec r := r.called (Network.hangUp id codec r.world) (.hangUp id codec)
  unbind port r := r.called (Network.unbind port r.world) (.unbind port)

instance [ChannelTraits κ] : ChannelTraits (Outside κ) where
  number k := ChannelTraits.number k.inner
  isWrapped k := ChannelTraits.isWrapped k.inner

instance [CardChannel W κ] : CardChannel (Journal W) (Outside κ) where
  transmit c := watch (.channel (.transmit c)) (CardChannel.transmit c)
  atr := watch (.channel .atr) CardChannel.atr
  close := watch (.channel .close) CardChannel.close
  protocol := watch (.channel .protocol) CardChannel.protocol
  beginExclusive := watch (.channel .beginExclusive) CardChannel.beginExclusive
  endExclusive := watch (.channel .endExclusive) CardChannel.endExclusive
  disconnect reset := watch (.channel (.disconnect reset)) (CardChannel.disconnect reset)
  release k r := r.called (CardChannel.release k.inner r.world) .release

instance [CardSimulator W ς κ] : CardSimulator (Journal W) (Outside ς) (Outside κ) where
  install aid data s r :=
    let (outcome, inner, world) := CardSimulator.install aid data s.inner r.world
    (outcome, ⟨inner⟩, r.called world (.install aid data))
  select aid s r :=
    let (outcome, inner, world) := CardSimulator.select aid s.inner r.world
    (outcome, ⟨inner⟩, r.called world (.select aid))
  intoChannel s r :=
    let (inner, world) := CardSimulator.intoChannel s.inner r.world
    (⟨inner⟩, r.called world .intoChannel)

/-- Calls of one sort are put down and nothing else. -/
def Adds (sort : OutwardCall → Prop) (r r' : Journal W) : Prop :=
  ∃ calls : List OutwardCall, (∀ c ∈ calls, sort c) ∧ r'.entries = r.entries ++ calls.map .call

variable {sort sort' : OutwardCall → Prop} {r r' r'' : Journal W}

theorem Adds.refl (sort : OutwardCall → Prop) (r : Journal W) : Adds sort r r :=
  ⟨[], by simp, by simp⟩

theorem Adds.trans (h : Adds sort r r') (h' : Adds sort r' r'') : Adds sort r r'' := by
  obtain ⟨calls, hsort, heq⟩ := h
  obtain ⟨calls', hsort', heq'⟩ := h'
  refine ⟨calls ++ calls', ?_, by rw [heq', heq, List.map_append, List.append_assoc]⟩
  intro c hc
  exact (List.mem_append.mp hc).elim (hsort c) (hsort' c)

theorem Adds.weaken (h : Adds sort r r') (hsort : ∀ c, sort c → sort' c) : Adds sort' r r' := by
  obtain ⟨calls, hcalls, heq⟩ := h
  exact ⟨calls, fun c hc => hsort c (hcalls c hc), heq⟩

theorem Adds.called {c : OutwardCall} (h : sort c) (r : Journal W) (world : W) : Adds sort r (r.called world c) :=
  ⟨[c], by simpa using h, rfl⟩

theorem filterMap_calls (calls : List OutwardCall) : (calls.map Entry.call).filterMap Entry.call? = calls := by
  rw [List.filterMap_map]
  exact List.filterMap_some

theorem quiet_called (r : Journal W) (world : W) (c : OutwardCall) :
    r.quiet.called world c = (r.called world c).quiet := by
  simp only [called, quiet, calls, List.filterMap_append, List.map_append]
  rfl

theorem quiet_log [Host W] (e : LogEvent) (r : Journal W) : (Host.log e r).quiet = r.quiet := by
  simp [Host.log, quiet, calls, Entry.call?]

/-- Without events a journal is its world and its calls. -/
theorem quiet_eq_iff : r.quiet = r'.quiet ↔ r.world = r'.world ∧ r.calls = r'.calls := by
  constructor
  · intro h
    have hworld : r.quiet.world = r'.quiet.world := congrArg world h
    have hcalls : r.quiet.calls = r'.quiet.calls := congrArg calls h
    simp only [quiet, calls, filterMap_calls] at hcalls
    exact ⟨hworld, hcalls⟩
  · rintro ⟨hworld, hcalls⟩
    rw [quiet, quiet, hworld, hcalls]

end Journal

/-! ## Calls that cannot tell -/

/-- What a call in a journaled world ends in. -/
class Ending (W : outParam Type) (o : Type) where
  journal : o → Journal W
  quiet : o → o
  journal_quiet : ∀ x, journal (quiet x) = (journal x).quiet

instance : Ending W (Journal W) := ⟨id, Journal.quiet, fun _ => rfl⟩

instance {o : Type} [Ending W o] : Ending W (α × o) where
  journal x := Ending.journal x.2
  quiet x := (x.1, Ending.quiet x.2)
  journal_quiet x := Ending.journal_quiet x.2

@[simp]
theorem Ending.quiet_journal (r : Journal W) : Ending.quiet r = r.quiet := rfl

@[simp]
theorem Ending.quiet_pair {o : Type} [Ending W o] (x : α × o) : Ending.quiet x = (x.1, Ending.quiet x.2) := rfl

open Journal (Adds)

/-- The call puts down calls of that sort, and does the same whether or not events were put down before it. -/
def Unaware {o : Type} [Ending W o] (sort : OutwardCall → Prop) (call : Journal W → o) : Prop :=
  ∀ r, call r.quiet = Ending.quiet (call r) ∧ Adds sort r (Ending.journal (call r))

theorem Unaware.weaken {o : Type} [Ending W o] {sort sort' : OutwardCall → Prop} {call : Journal W → o}
    (h : Unaware sort call) (hsort : ∀ c, sort c → sort' c) : Unaware sort' call :=
  fun r => ⟨(h r).1, (h r).2.weaken hsort⟩

theorem Unaware.map {β : Type} {sort : OutwardCall → Prop} {call : Journal W → Outcome κ (Journal W) α}
    (h : Unaware sort call) (f : α → β) : Unaware sort fun r => (call r).map f := by
  intro r
  obtain ⟨hends, hadds⟩ := h r
  refine ⟨?_, hadds⟩
  simp only [hends]
  rfl

theorem Unaware.lift {κ' : Type} {sort : OutwardCall → Prop} {call : Journal W → Outcome κ (Journal W) α}
    (h : Unaware sort call) (f : κ → κ') : Unaware sort fun r => (call r).lift f := by
  intro r
  obtain ⟨hends, hadds⟩ := h r
  refine ⟨?_, hadds⟩
  simp only [hends]
  rfl

/-- From journals that differ in events only, the call puts down the same. -/
theorem Unaware.same {o : Type} [Ending W o] {sort : OutwardCall → Prop} {call : Journal W → o}
    (h : Unaware sort call) {r r' : Journal W} (hr : r.quiet = r'.quiet) :
    Ending.quiet (call r) = Ending.quiet (call r') ∧ ∃ calls : List OutwardCall,
      (Ending.journal (call r)).entries = r.entries ++ calls.map .call ∧
      (Ending.journal (call r')).entries = r'.entries ++ calls.map .call := by
  have hends : Ending.quiet (call r) = Ending.quiet (call r') := by rw [← (h r).1, hr, (h r').1]
  obtain ⟨calls, -, hcalls⟩ := (h r).2
  obtain ⟨calls', -, hcalls'⟩ := (h r').2
  obtain ⟨-, hbefore⟩ := Journal.quiet_eq_iff.mp hr
  have hafter : (Ending.journal (call r)).quiet = (Ending.journal (call r')).quiet := by
    rw [← Ending.journal_quiet, hends, Ending.journal_quiet]
  obtain ⟨-, hkept⟩ := Journal.quiet_eq_iff.mp hafter
  simp only [Journal.calls, hcalls, hcalls', List.filterMap_append, Journal.filterMap_calls] at hbefore hkept
  rw [hbefore] at hkept
  refine ⟨hends, calls, hcalls, ?_⟩
  rw [hcalls', List.append_cancel_left hkept]

/-- A channel none of whose calls can tell whether there is a debug log. -/
structure Oblivious (W κ : Type) [CardChannel (Journal W) κ] : Prop where
  transmit : ∀ c (k : κ), Unaware (W := W) (fun _ => True) (CardChannel.transmit c k)
  atr : ∀ k : κ, Unaware (W := W) OutwardCall.Aside (CardChannel.atr k)
  close : ∀ k : κ, Unaware (W := W) OutwardCall.Aside (CardChannel.close k)
  protocol : ∀ k : κ, Unaware (W := W) OutwardCall.Aside (CardChannel.protocol k)
  beginExclusive : ∀ k : κ, Unaware (W := W) OutwardCall.Aside (CardChannel.beginExclusive k)
  endExclusive : ∀ k : κ, Unaware (W := W) OutwardCall.Aside (CardChannel.endExclusive k)
  disconnect : ∀ reset (k : κ), Unaware (W := W) OutwardCall.Aside (CardChannel.disconnect reset k)
  release : ∀ k : κ, Unaware (W := W) OutwardCall.Aside (CardChannel.release k)

theorem watch_unaware {sort : OutwardCall → Prop} {c : OutwardCall} (h : sort c) (call : κ → W → Outcome κ W α)
    (k : Outside κ) : Unaware sort (Journal.watch c call k) := by
  intro r
  refine ⟨?_, .called h r _⟩
  simp only [Journal.watch, Journal.quiet_called]
  rfl

/-- A call on the world alone, with what is made of its answer. -/
theorem called_unaware {β : Type} {sort : OutwardCall → Prop} {c : OutwardCall} (h : sort c) (call : W → β × W)
    (f : β → α) : Unaware sort fun r : Journal W => (f (call r.world).1, r.called (call r.world).2 c) := by
  intro r
  refine ⟨?_, .called h r _⟩
  simp only [Ending.quiet_pair, Ending.quiet_journal, ← Journal.quiet_called]
  rfl

theorem spent_unaware {sort : OutwardCall → Prop} {c : OutwardCall} (h : sort c) (call : W → W) :
    Unaware sort fun r : Journal W => r.called (call r.world) c :=
  fun r => ⟨Journal.quiet_called r _ _, .called h r _⟩

/-- Any channel at all, when it is watched. -/
theorem Outside.oblivious [CardChannel W κ] : Oblivious W (Outside κ) where
  transmit c := watch_unaware trivial (CardChannel.transmit c)
  atr := watch_unaware trivial CardChannel.atr
  close := watch_unaware trivial CardChannel.close
  protocol := watch_unaware trivial CardChannel.protocol
  beginExclusive := watch_unaware trivial CardChannel.beginExclusive
  endExclusive := watch_unaware trivial CardChannel.endExclusive
  disconnect reset := watch_unaware trivial (CardChannel.disconnect reset)
  release k := spent_unaware trivial (CardChannel.release k.inner)

theorem Oblivious.sum {κ' : Type} [CardChannel (Journal W) κ] [CardChannel (Journal W) κ'] (h : Oblivious W κ)
    (h' : Oblivious W κ') : Oblivious W (κ ⊕ κ') := by
  constructor
  · rintro c (k | k)
    · exact (h.transmit c k).lift Sum.inl
    · exact (h'.transmit c k).lift Sum.inr
  · rintro (k | k)
    · exact (h.atr k).lift Sum.inl
    · exact (h'.atr k).lift Sum.inr
  · rintro (k | k)
    · exact (h.close k).lift Sum.inl
    · exact (h'.close k).lift Sum.inr
  · rintro (k | k)
    · exact (h.protocol k).lift Sum.inl
    · exact (h'.protocol k).lift Sum.inr
  · rintro (k | k)
    · exact (h.beginExclusive k).lift Sum.inl
    · exact (h'.beginExclusive k).lift Sum.inr
  · rintro (k | k)
    · exact (h.endExclusive k).lift Sum.inl
    · exact (h'.endExclusive k).lift Sum.inr
  · rintro reset (k | k)
    · exact (h.disconnect reset k).lift Sum.inl
    · exact (h'.disconnect reset k).lift Sum.inr
  · rintro (k | k)
    · exact h.release k
    · exact h'.release k

end

end CardLink
