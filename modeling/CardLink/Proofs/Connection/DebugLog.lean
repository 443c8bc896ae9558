import CardLink.Proofs.Connection.Debugging
import CardLink.Proofs.Connection.LocalCard

/-!
# What the debug log shows

Managers whose debug flags differ answer alike, make the same calls and end in the same state but for the flag. What
the log shows is one event before and one after each exchange over a normalizing channel, with the command as it is
handed on and with what came of it.
-/

namespace CardLink

open VirtualCard (Network)
open OutwardCall (Aside)
open Journal (Adds)

section

variable {W κ ς α : Type}

/-! ## What the log shows -/

/-- The exchange that selects over a channel that was just opened: the channel, the command and the world then. -/
def Managed.selection (aid : Option Bytes) : Managed W κ ς α → Option (Normalized (Backend κ) × Command × W)
  | (.ok _, m, w) => aid.bind fun aid => m.channel.map fun n => (n, .selectAid aid, w)
  | (.error _, _, _) => none

namespace ManagerRequest

def isDirect : ManagerRequest W κ ς → Bool
  | .onChannel request => request.isDirect
  | _ => false

variable [ChannelTraits κ] [CardChannel W κ] [CardSimulator W ς κ] [Network W] [Host W]

/-- The one exchange that a call makes over a normalizing channel, if it makes one: the channel, the command that it
is given and the world then. A connection is made first without selecting. -/
def exchange (request : ManagerRequest W κ ς) (m : Manager W κ ς) (w : W) :
    Option (Normalized (Backend κ) × Command × W) :=
  match request with
  | .transmit c => if m.state = .connected then m.channel.map fun n => (n, c, w) else none
  | .selectApplet => m.aid.bind fun aid => m.channel.map fun n => (n, .selectAid aid, w)
  | .onChannel request => request.given.bind fun c => m.channel.map fun n => (n, c, w)
  | .connect settings =>
    if settings.kind = .localSimulator then none
    else
      ({ m with doSelect := false }.connect settings w).selection
        (if m.doSelect && settings.doSelect then m.aid.or settings.aid else none)
  | .connectSimulator s =>
    ({ m with doSelect := false }.connectSimulator s w).selection (if m.doSelect then m.aid else none)
  | _ => none

/-- What a call on a manager puts down: calls aside, and then its exchange if it makes one. Only calls that go around
normalization exchange anything else, and none of them is logged. -/
def Presents (request : ManagerRequest (Journal W) (Outside κ) (Outside ς))
    (m : Manager (Journal W) (Outside κ) (Outside ς)) (r : Journal W) : Prop :=
  match request.exchange m r with
  | some (n, c, r') =>
    Adds Aside r r' ∧ n.Presents c r' ∧ (m.Sound → n.options = m.options) ∧
      (request.perform m r).2.1.channel = some (n.transmit c r').2.1 ∧ (request.perform m r).2.2 = (n.transmit c r').2.2
  | none => Adds (fun c => request.isDirect = false → c.Aside) r (request.perform m r).2.2

variable {m : Manager (Journal W) (Outside κ) (Outside ς)}
  {request : ManagerRequest (Journal W) (Outside κ) (Outside ς)} {r : Journal W}

theorem presents_of_aside (hnone : request.exchange m r = none) (hadds : Adds Aside r (request.perform m r).2.2) :
    request.Presents m r := by
  unfold Presents
  rw [hnone]
  exact hadds.weaken fun _ h _ => h

/-- A command that is sent over the held channel is the exchange of the call. -/
theorem presents_of_send {n : Normalized (Backend (Outside κ))} {c : Command} (hch : m.channel = some n)
    (hexchange : request.exchange m r = some (n, c, r))
    (hsend : (request.perform m r).2 = (m.send c r).2) : request.Presents m r := by
  unfold Presents
  rw [hexchange, hsend, Manager.send_some hch]
  exact ⟨.refl _ r, n.transmit_presents backend_oblivious c r, fun hsound => (hsound n hch).1, rfl, rfl⟩

theorem transmit_presents (c : Command) : (transmit c).Presents m r := by
  by_cases hstate : m.state = .connected
  · cases hch : m.channel with
    | none =>
      refine presents_of_aside (by simp [exchange, hch]) ?_
      simp only [perform, Manager.transmit, hstate, if_true, Manager.send_none hch]
      exact .refl _ r
    | some n =>
      refine presents_of_send (c := c) hch (by simp [exchange, hch, hstate]) ?_
      simp only [perform, Manager.transmit, hstate, if_true]
      rfl
  · refine presents_of_aside (by simp [exchange, hstate]) ?_
    simp only [perform, Manager.transmit, hstate, if_false]
    exact .refl _ r

theorem selectApplet_presents : (selectApplet : ManagerRequest (Journal W) (Outside κ) (Outside ς)).Presents m r := by
  cases haid : m.aid with
  | none =>
    refine presents_of_aside (by simp [exchange, haid]) ?_
    simp only [perform, Manager.selectApplet_none haid]
    exact .refl _ r
  | some aid =>
    cases hch : m.channel with
    | none =>
      refine presents_of_aside (by simp [exchange, haid, hch]) ?_
      simp only [perform, Manager.selectApplet_some haid, Manager.send_none hch]
      exact .refl _ r
    | some n =>
      refine presents_of_send (c := .selectAid aid) hch (by simp [exchange, haid, hch]) ?_
      simp only [perform, Manager.selectApplet_some haid]
      rfl

theorem onChannel_presents (request : NormalizedRequest) :
    (onChannel request : ManagerRequest (Journal W) (Outside κ) (Outside ς)).Presents m r := by
  cases hch : m.channel with
  | none =>
    refine presents_of_aside (by simp [exchange, hch]) ?_
    simp only [perform, Manager.withChannel, hch]
    exact .refl _ r
  | some n =>
    have hpresents := n.perform_presents backend_oblivious request r
    unfold NormalizedRequest.Presents at hpresents
    unfold Presents
    cases hgiven : request.given with
    | some c =>
      rw [hgiven] at hpresents
      obtain ⟨hpresents, hsame⟩ := hpresents
      have hexchange : (onChannel request : ManagerRequest (Journal W) (Outside κ) (Outside ς)).exchange m r =
          some (n, c, r) := by simp [exchange, hgiven, hch]
      rw [hexchange]
      refine ⟨.refl _ r, hpresents, fun hsound => (hsound n hch).1, ?_, ?_⟩
      · simp only [perform, Manager.withChannel, hch, Managed.map, hsame]
      · simp only [perform, Manager.withChannel, hch, Managed.map, hsame]
    | none =>
      rw [hgiven] at hpresents
      have hexchange : (onChannel request : ManagerRequest (Journal W) (Outside κ) (Outside ς)).exchange m r = none := by
        simp [exchange, hgiven]
      rw [hexchange]
      simp only [perform, Manager.withChannel, hch]
      exact hpresents

theorem connect_presents (hm : m.Blind) (settings : Settings) :
    (connect settings : ManagerRequest (Journal W) (Outside κ) (Outside ς)).Presents m r := by
  by_cases hkind : settings.kind = .localSimulator
  · refine presents_of_aside (by simp [exchange, hkind]) ?_
    exact (Manager.connect_discreet r hm settings).adds fun h => h.1 hkind
  · have hadds := (Manager.connect_discreet (m := { m with doSelect := false }) r (hm.of_sources rfl) settings).adds
      (by simp)
    have hkeeps := Manager.connect_keeps settings { m with doSelect := false } r
    have houtcome := Manager.connect_outcome settings { m with doSelect := false } r
    have hselects := Manager.connect_thenSelects hkind m r
    unfold Manager.connectThenSelect at hselects
    unfold Presents
    simp only [exchange, hkind, if_false, perform, hselects, Managed.map]
    generalize Manager.connect settings { m with doSelect := false } r = opened at hadds hkeeps houtcome ⊢
    generalize (if m.doSelect && settings.doSelect then m.aid.or settings.aid else none) = aid
    obtain ⟨e | _ | _, m', r'⟩ := opened
    · exact hadds.weaken fun _ h _ => h
    · have hch : m'.channel = none := Option.isNone_iff_eq_none.mp (by simpa using houtcome.1)
      have hnone : Managed.selection aid (.ok false, m', r') = none := by cases aid <;> simp [Managed.selection, hch]
      rw [hnone]
      exact hadds.weaken fun _ h _ => h
    · obtain ⟨n, hch⟩ : ∃ n, m'.channel = some n := Option.isSome_iff_exists.mp houtcome.1
      cases aid with
      | none => exact hadds.weaken fun _ h _ => h
      | some aid =>
        have hsome : Managed.selection (some aid) (.ok true, m', r') = some (n, .selectAid aid, r') := by
          simp [Managed.selection, hch]
        have hoptions : m.Sound → n.options = m.options := by
          intro hsound
          have hheld := hkeeps.sound (hsound.of_same rfl rfl) n hch
          exact hheld.1.trans hkeeps.options
        rw [hsome]
        simp only [Manager.send_some (m := { m' with doSelect := m.doSelect }) hch]
        have hpresents := n.transmit_presents backend_oblivious (.selectAid aid) r'
        rcases htransmit : CardChannel.transmit (.selectAid aid) n r' with ⟨e | response, n', r''⟩
        · have hafter : n.transmit (.selectAid aid) r' = (.error e, n', r'') := htransmit
          simp only [hafter]
          exact ⟨hadds, hpresents, hoptions, rfl, rfl⟩
        · have hafter : n.transmit (.selectAid aid) r' = (.ok response, n', r'') := htransmit
          simp only [hafter]
          exact ⟨hadds, hpresents, hoptions, rfl, rfl⟩

theorem connectSimulator_presents (s : Outside ς) :
    (connectSimulator s : ManagerRequest (Journal W) (Outside κ) (Outside ς)).Presents m r := by
  have hadds := (intoChannel_unaware s r).2
  rcases hchannel : CardSimulator.intoChannel s r with ⟨k, r'⟩
  rw [hchannel] at hadds
  cases hk : ChannelTraits.isWrapped (.inr k : Backend (Outside κ)) with
  | true =>
    refine presents_of_aside ?_ ?_
    · simp only [exchange, (Manager.connectSimulator_wrapped hchannel hk _).1]
      rfl
    · simp only [perform, Managed.map, (Manager.connectSimulator_wrapped hchannel hk m).1]
      exact hadds.trans (backend_oblivious.release (.inr k : Backend (Outside κ)) r').2
  | false =>
    have hconnect := (Manager.connectSimulator_unwrapped hchannel hk m).1
    have hconnected := (Manager.connectSimulator_unwrapped hchannel hk { m with doSelect := false }).1
    have hadds' := hadds.trans (m.releaseHeld_quiet r').2
    unfold Presents
    simp only [exchange, perform, Managed.map, hconnect, hconnected, Bool.false_eq_true, if_false]
    cases hauto : m.doSelect with
    | false => exact hadds'.weaken fun _ h _ => h
    | true =>
      have hheld : (m.attached k).channel = some { inner := .inr k, options := m.options } := rfl
      have haid : (m.attached k).aid = m.aid := rfl
      simp only [if_true, Manager.selectIfConfigured_held hheld, haid]
      cases m.aid with
      | none => exact hadds'.weaken fun _ h _ => h
      | some aid =>
        have hpresents := Normalized.transmit_presents backend_oblivious (.selectAid aid)
          { inner := .inr k, options := m.options } (m.releaseHeld r')
        simp only
        rcases htransmit : CardChannel.transmit (.selectAid aid)
          ({ inner := .inr k, options := m.options } : Normalized (Backend (Outside κ))) (m.releaseHeld r') with
          ⟨e | response, n', r''⟩
        · exact ⟨hadds', hpresents, fun _ => rfl, congrArg (fun o => some o.2.1) htransmit.symm,
            congrArg (fun o => o.2.2) htransmit.symm⟩
        · exact ⟨hadds', hpresents, fun _ => rfl, congrArg (fun o => some o.2.1) htransmit.symm,
            congrArg (fun o => o.2.2) htransmit.symm⟩

theorem perform_presents (hm : m.Blind) (r : Journal W) : request.Presents m r := by
  cases request with
  | connect settings => exact connect_presents hm settings
  | connectSimulator s => exact connectSimulator_presents s
  | transmit c => exact transmit_presents c
  | selectApplet => exact selectApplet_presents
  | onChannel request => exact onChannel_presents request
  | connectChannel k => exact presents_of_aside rfl ((m.connectChannel_discreet r k).adds id)
  | disconnect hard => exact presents_of_aside rfl ((m.disconnect_discreet r hard).adds id)
  | returnChannel n => exact presents_of_aside rfl (backend_oblivious.release n.inner r).2
  | atr => exact presents_of_aside rfl ((m.ask_discreet r backend_oblivious.atr).adds id)
  | reset => exact presents_of_aside rfl ((m.ask_discreet r backend_oblivious.atr).adds id)
  | protocol => exact presents_of_aside rfl ((m.ask_discreet r backend_oblivious.protocol).adds id)
  | _ => exact presents_of_aside rfl (.refl _ r)

end ManagerRequest

/-! ## Along the calls -/

namespace Manager

variable [ChannelTraits κ] [CardChannel W κ] [CardSimulator W ς κ] [Network W] [Host W]
  {m : Manager (Journal W) (Outside κ) (Outside ς)} {r : Journal W}
  {requests : List (ManagerRequest (Journal W) (Outside κ) (Outside ς))}

omit [ChannelTraits κ] [CardChannel W κ] [CardSimulator W ς κ] [Network W] [Host W] in
theorem blind_new (debug : Bool) (aid : Option Bytes) : (new debug aid : Manager (Journal W) κ ς).Blind :=
  ⟨by simp [new], by simp [new], by simp [new]⟩

theorem run_blind (hm : m.Blind) (hr : ∀ q ∈ requests, q.Blind) (r : Journal W) : (m.run r requests).1.Blind := by
  induction requests generalizing m r with
  | nil => exact hm
  | cons request requests ih =>
    have hstep := (ManagerRequest.perform_quiet hm (hr request List.mem_cons_self) r).2
    exact ih hstep (fun q hq => hr q (List.mem_cons_of_mem _ hq)) _

theorem answers_quiet (hm : m.Blind) (hr : ∀ q ∈ requests, q.Blind) (r : Journal W) :
    answers (requests.map ManagerRequest.quiet) m.quiet r.quiet =
      ((answers requests m r).1.map (Except.map ManagerAnswer.quiet), (answers requests m r).2.1.quiet,
        (answers requests m r).2.2.quiet) := by
  induction requests generalizing m r with
  | nil => rfl
  | cons request requests ih =>
    obtain ⟨hstep, hblind⟩ := ManagerRequest.perform_quiet hm (hr request List.mem_cons_self) r
    have hrest := ih hblind (fun q hq => hr q (List.mem_cons_of_mem _ hq)) (request.perform m r).2.2
    simp only [List.map_cons, answers, hstep, hrest]

omit [ChannelTraits κ] [CardChannel W κ] [CardSimulator W ς κ] [Network W] [Host W] in
theorem quiet_lastCommand (m : Manager W κ ς) : m.quiet.lastCommand = m.lastCommand := by
  cases hch : m.channel with
  | none => simp only [lastCommand, quiet_channel, hch, Option.map_none]
  | some n =>
    simp only [lastCommand, quiet_channel, hch, Option.map_some]
    rfl

omit [ChannelTraits κ] [CardChannel W κ] [CardSimulator W ς κ] [Network W] [Host W] in
theorem outside_all_blind (calls : List (ManagerRequest W κ ς)) : ∀ q ∈ calls.map ManagerRequest.outside, q.Blind := by
  intro q hq
  obtain ⟨request, -, rfl⟩ := List.mem_map.mp hq
  exact request.outside_blind

/-- Managers that were made alike but for the debug flag, and got the same calls but for debug flags, end alike. -/
theorem answers_alike (debug debug' : Bool) (aid : Option Bytes) (r : Journal W)
    {calls calls' : List (ManagerRequest W κ ς)}
    (hcalls : calls.map ManagerRequest.quiet = calls'.map ManagerRequest.quiet) :
    EndAlike (Except.map ManagerAnswer.quiet) quiet lastCommand
      (answers (calls.map ManagerRequest.outside) (new debug aid) r)
      (answers (calls'.map ManagerRequest.outside) (new debug' aid) r) := by
  have hquiet : ∀ calls : List (ManagerRequest W κ ς),
      (calls.map ManagerRequest.outside).map ManagerRequest.quiet =
        (calls.map ManagerRequest.quiet).map ManagerRequest.outside := by
    intro calls
    simp only [List.map_map]
    exact List.map_congr_left fun request _ => request.outside_quiet
  have hnew : (new debug aid : Manager (Journal W) (Outside κ) (Outside ς)).quiet = (new debug' aid).quiet := rfl
  refine .of_quiet quiet_lastCommand ?_
  rw [← answers_quiet (blind_new debug aid) (outside_all_blind calls) r,
    ← answers_quiet (blind_new debug' aid) (outside_all_blind calls') r, hquiet, hquiet, hcalls, hnew]

omit [ChannelTraits κ] [CardChannel W κ] [CardSimulator W ς κ] [Network W] [Host W] in
theorem outside_isBuilder {request : ManagerRequest W κ ς} (h : request.IsBuilder) : request.outside.IsBuilder := by
  cases request <;> exact h

omit [ChannelTraits κ] [CardChannel W κ] [CardSimulator W ς κ] [Network W] [Host W] in
theorem outside_isCall {request : ManagerRequest W κ ς} (h : request.IsCall) : request.outside.IsCall := by
  cases request <;> exact h

/-- Set up first and then used, a manager holds a channel with its own options, the debug flag among them. -/
theorem run_outside_sound (debug : Bool) (aid : Option Bytes) (r : Journal W)
    {builders calls : List (ManagerRequest W κ ς)} (hbuilders : ∀ q ∈ builders, q.IsBuilder)
    (hcalls : ∀ q ∈ calls, q.IsCall) :
    ((new debug aid).run r ((builders ++ calls).map ManagerRequest.outside)).1.Sound := by
  rw [List.map_append, run_append]
  refine run_sound ?_ (sound_of_none ?_) _
  · intro q hq
    obtain ⟨request, hmem, rfl⟩ := List.mem_map.mp hq
    exact outside_isCall (hcalls request hmem)
  · rw [run_builders_channel ?_]
    · rfl
    · intro q hq
      obtain ⟨request, hmem, rfl⟩ := List.mem_map.mp hq
      exact outside_isBuilder (hbuilders request hmem)

/-- The debug log is only presentation, on a normalizing channel around any channel and on a manager with any
collaborators. Runs that differ in debug flags only end alike. Along a run, each exchange that is handed on while
debugging is on has one event before and one after it, with the command as it is handed on and with what came of it;
a refused command and any call while debugging is off have none. The flag that counts is the manager's own, unless
the caller gave the held channel or the manager other options in between. -/
theorem logging_is_presentation :
    (∀ (n n' : Normalized (Outside κ)) (r : Journal W) (calls calls' : List NormalizedRequest),
      n.quiet = n'.quiet → calls.map NormalizedRequest.quiet = calls'.map NormalizedRequest.quiet →
        EndAlike (Except.map NormalizedAnswer.quiet) Normalized.quiet Normalized.lastCommand
          (n.run r calls) (n'.run r calls')) ∧
    (∀ (n : Normalized (Outside κ)) (r : Journal W) (before : List NormalizedRequest) (request : NormalizedRequest),
      let (_, n', r') := n.run r before
      request.Presents n' r') ∧
    (∀ (debug debug' : Bool) (aid : Option Bytes) (r : Journal W) (calls calls' : List (ManagerRequest W κ ς)),
      calls.map ManagerRequest.quiet = calls'.map ManagerRequest.quiet →
        EndAlike (Except.map ManagerAnswer.quiet) quiet lastCommand
          (answers (calls.map ManagerRequest.outside) (new debug aid) r)
          (answers (calls'.map ManagerRequest.outside) (new debug' aid) r)) ∧
    (∀ (debug : Bool) (aid : Option Bytes) (r : Journal W) (before : List (ManagerRequest W κ ς))
        (request : ManagerRequest W κ ς),
      let (m, r') := (new debug aid).run r (before.map ManagerRequest.outside)
      request.outside.Presents m r') ∧
    ∀ (debug : Bool) (aid : Option Bytes) (r : Journal W) (builders calls : List (ManagerRequest W κ ς)),
      (∀ q ∈ builders, q.IsBuilder) → (∀ q ∈ calls, q.IsCall) →
        ((new debug aid).run r ((builders ++ calls).map ManagerRequest.outside)).1.Sound := by
  refine ⟨?_, ?_, ?_, ?_, ?_⟩
  · intro n n' r calls calls' hn hcalls
    exact Normalized.run_alike Outside.oblivious r hn hcalls
  · intro n r before request
    exact (n.run r before).2.1.perform_presents Outside.oblivious request (n.run r before).2.2
  · intro debug debug' aid r calls calls' hcalls
    exact answers_alike debug debug' aid r hcalls
  · intro debug aid r before request
    exact ManagerRequest.perform_presents (run_blind (blind_new debug aid) (outside_all_blind before) r) _
  · intro debug aid r builders calls hbuilders hcalls
    exact run_outside_sound debug aid r hbuilders hcalls

end Manager
end

namespace Scripted

def readCommand : Command := ⟨0x00, 0xB0, 0x00, 0x00, none, some 16⟩

/-- A session that selects, reads and tries a command that does not fit, with these debug flags after connecting and
after reading. -/
def debuggedSession (first second : Bool) : List (ManagerRequest World AnyChannel AnySimulator) :=
  [.connect firstSettings, .change [.debug first], .transmit readCommand, .change [.debug second],
    .transmit { readCommand with data := some [0x01], le := some 300 }]

/-- A channel that debugs or does not, around one that is watched. -/
def watchedChannel (debug : Bool) : Normalized (Outside AnyChannel) := { inner := ⟨nextCard⟩, options := { debug } }

end Scripted

namespace Manager

open Scripted

theorem logging_is_presentation_session :
    let aid : Bytes := [0xA0, 0x00, 0x00, 0x00, 0x03, 0x10, 0x10]
    let builders : List (ManagerRequest World AnyChannel AnySimulator) := [.withRemote readyRemote]
    let session (first second : Bool) := builders ++ debuggedSession first second
    let run (debug first second : Bool) :=
      answers ((session first second).map ManagerRequest.outside) (new debug none) (⟨{}, []⟩ : Journal World)
    EndAlike (Except.map NormalizedAnswer.quiet) Normalized.quiet Normalized.lastCommand
        ((watchedChannel true).run (⟨{}, []⟩ : Journal World) [.change [.debug false], .channel (.transmit readCommand)])
        ((watchedChannel false).run ⟨{}, []⟩ [.change [.debug true], .channel (.transmit readCommand)]) ∧
      EndAlike (Except.map ManagerAnswer.quiet) quiet lastCommand (run true false true) (run false true false) ∧
      ((new true none).run (⟨{}, []⟩ : Journal World) ((session false true).map ManagerRequest.outside)).1.Sound ∧
      (run true false true).2.2.entries =
        [.call (.connectRemote firstSettings), .event (.request (.selectAid aid)),
          .call (.channel (.transmit (.selectAid aid))), .event (.answer (.statusOnly .success) 0),
          .call (.channel (.transmit { readCommand with data := some [], le := none }))] := by
  intro aid builders session run
  obtain ⟨hchannels, -, hmanagers, -, hsound⟩ :=
    logging_is_presentation (W := World) (κ := AnyChannel) (ς := AnySimulator)
  have hwatched : (watchedChannel true).quiet = (watchedChannel false).quiet := rfl
  have hcalls : (session false true).map ManagerRequest.quiet = (session true false).map ManagerRequest.quiet := rfl
  have hbuilders : ∀ q ∈ builders, q.IsBuilder := by
    simp [builders, ManagerRequest.IsBuilder]
  have hinUse : ∀ q ∈ debuggedSession false true, q.IsCall := by
    simp [debuggedSession, ManagerRequest.IsCall]
  exact ⟨hchannels _ _ _ _ _ hwatched rfl, hmanagers true false none _ _ _ hcalls,
    hsound true none _ _ _ hbuilders hinUse, rfl⟩

end Manager
end CardLink
