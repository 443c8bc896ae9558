import CardLink.Proofs.Normalization.Journal
import CardLink.Proofs.Normalization.Received

/-!
# The debug log of a normalizing channel

Whatever comes of the calls is the same for a channel that debugs and for one that does not, but for the flag and the
log. In the journal of a channel that debugs, each exchange that is handed on stands between two events, and there
are no other events.
-/

namespace CardLink

open Journal (Adds)

/-! ## Without debugging -/

def NormalizeOptions.quiet (o : NormalizeOptions) : NormalizeOptions := { o with debug := false }

def OptionChange.quiet : OptionChange → OptionChange
  | .debug _ => .debug false
  | change => change

def Normalized.quiet {κ : Type} (n : Normalized κ) : Normalized κ := { n with options := n.options.quiet }

def NormalizedRequest.quiet : NormalizedRequest → NormalizedRequest
  | .change changes => .change (changes.map OptionChange.quiet)
  | .setOptions o => .setOptions o.quiet
  | request => request

def NormalizedAnswer.quiet : NormalizedAnswer → NormalizedAnswer
  | .options o => .options o.quiet
  | answer => answer

theorem NormalizeOptions.quiet_change (o : NormalizeOptions) (d : OptionChange) :
    o.quiet.change d.quiet = (o.change d).quiet := by
  cases d <;> rfl

theorem NormalizeOptions.quiet_changes (o : NormalizeOptions) (changes : List OptionChange) :
    (changes.map OptionChange.quiet).foldl NormalizeOptions.change o.quiet =
      (changes.foldl NormalizeOptions.change o).quiet := by
  induction changes generalizing o with
  | nil => rfl
  | cons d changes ih =>
    rw [List.map_cons, List.foldl_cons, List.foldl_cons, o.quiet_change d, ih]

/-- The event after an exchange. -/
def LogEvent.ofOutcome (elapsed : Nat) : Except ChannelError Response → LogEvent
  | .ok response => .answer response elapsed
  | .error e => .failure e elapsed

section

variable {W κ α : Type} [Host W] [CardChannel (Journal W) κ]

/-- What a call on a normalizing channel ends in, without debugging. -/
def Outcome.quiet (o : Outcome (Normalized κ) (Journal W) α) : Outcome (Normalized κ) (Journal W) α :=
  (o.1, o.2.1.quiet, o.2.2.quiet)

namespace Normalized

omit [CardChannel (Journal W) κ] in
theorem quiet_logIf (debug : Bool) (e : LogEvent) (r : Journal W) : (logIf debug e r).quiet = r.quiet := by
  cases debug with
  | false => rfl
  | true => exact Journal.quiet_log e r

omit [CardChannel (Journal W) κ] in
theorem now_logIf (debug : Bool) (e : LogEvent) (r : Journal W) : Host.now (logIf debug e r) = Host.now r := by
  cases debug <;> rfl

/-- An exchange is the exchange of the channel inside, between two events. Writing them takes no time. -/
theorem forward_of_transmit {c : Command} {n : Normalized κ} {r r' : Journal W} {result : Except ChannelError Response}
    {inner : κ} (h : CardChannel.transmit c n.inner (logIf n.options.debug (.request c) r) = (result, inner, r')) :
    n.forward c r =
      (result, { n with inner, lastCommand := some c, lastDuration := Host.now r' - Host.now r },
        logIf n.options.debug (.ofOutcome (Host.now r' - Host.now r) result) r') := by
  unfold forward
  simp only [h, now_logIf]
  cases result <;> rfl

omit [Host W] [CardChannel (Journal W) κ] in
theorem mapInner_quiet {sort : OutwardCall → Prop} {call : Journal W → Outcome κ (Journal W) α} (h : Unaware sort call)
    (n : Normalized κ) (r : Journal W) : n.quiet.mapInner (call r.quiet) = (n.mapInner (call r)).quiet := by
  rw [(h r).1]
  rfl

theorem transmit_quiet (h : Oblivious W κ) (c : Command) (n : Normalized κ) (r : Journal W) :
    n.quiet.transmit c r.quiet = (n.transmit c r).quiet := by
  have hnormalize : n.quiet.normalize c = n.normalize c := rfl
  unfold transmit
  rw [hnormalize]
  cases (n.normalize c).checkLengths with
  | error e => rfl
  | ok _ =>
    generalize n.normalize c = sent
    have hinner := (h.transmit sent n.inner (logIf n.options.debug (.request sent) r)).1
    rw [quiet_logIf] at hinner
    rcases hcall : CardChannel.transmit sent n.inner (logIf n.options.debug (.request sent) r) with ⟨result, inner, r'⟩
    rw [hcall] at hinner
    have hforward : n.quiet.forward sent r.quiet = _ := forward_of_transmit (n := n.quiet) hinner
    simp only [hforward, forward_of_transmit hcall, Outcome.quiet, quiet_logIf]
    rfl

/-- What one exchange puts down. A command that is refused puts nothing down. One that is handed on puts down the
calls of the channel inside, and while debugging is on one event before them and one with the outcome after them. -/
def Presents (c : Command) (n : Normalized κ) (r : Journal W) : Prop :=
  match (n.normalize c).checkLengths with
  | .error e => n.transmit c r = (.error (.command e), n, r)
  | .ok () =>
    let sent := n.normalize c
    let (result, n', r') := n.transmit c r
    (CardChannel.transmit sent n.inner r).1 = result ∧ n'.lastCommand = some sent ∧
      ∃ calls : List OutwardCall,
        (CardChannel.transmit sent n.inner r).2.2.entries = r.entries ++ calls.map .call ∧
        r'.entries = r.entries ++
          if n.options.debug then
            .event (.request sent) :: calls.map .call ++ [.event (.ofOutcome n'.lastDuration result)]
          else calls.map .call

theorem transmit_presents (h : Oblivious W κ) (c : Command) (n : Normalized κ) (r : Journal W) : n.Presents c r := by
  unfold Presents transmit
  cases (n.normalize c).checkLengths with
  | error e => rfl
  | ok _ =>
    generalize n.normalize c = sent
    have hlogged := quiet_logIf n.options.debug (.request sent) r
    obtain ⟨hends, calls, hinside, hcalls⟩ := (h.transmit sent n.inner).same hlogged.symm
    rcases hcall : CardChannel.transmit sent n.inner (logIf n.options.debug (.request sent) r) with ⟨result, inner, r'⟩
    rw [hcall] at hends hcalls
    simp only [forward_of_transmit hcall]
    refine ⟨congrArg Prod.fst hends, trivial, calls, hinside, ?_⟩
    cases hdebug : n.options.debug with
    | false =>
      rw [hdebug] at hcalls
      exact hcalls
    | true =>
      rw [hdebug] at hcalls
      have hwritten : r'.entries = (r.entries ++ [.event (.request sent)]) ++ calls.map .call := hcalls
      simp [logIf, Host.log, hwritten]

theorem transmitBuffer_quiet (h : Oblivious W κ) (bytes buffer : Bytes) (n : Normalized κ) (r : Journal W) :
    n.quiet.transmitBuffer bytes buffer r.quiet =
      ((n.transmitBuffer bytes buffer r).1.quiet, (n.transmitBuffer bytes buffer r).2) := by
  unfold transmitBuffer
  cases Command.parse bytes with
  | error e => rfl
  | ok c =>
    simp only [transmit_quiet h]
    rcases n.transmit c r with ⟨e | response, n', r'⟩
    · rfl
    · simp only [Outcome.quiet]
      split <;> rfl

variable [ChannelTraits κ]

omit [Host W] in
/-- Only an exchange hands a command to the channel inside. -/
theorem request_unaware (h : Oblivious W κ) (request : ChannelRequest) (k : κ) :
    Unaware (W := W) (fun c => (NormalizedRequest.channel request).given = none → c.Aside) (request.perform k) := by
  have haside : ∀ c : OutwardCall, c.Aside → (NormalizedRequest.channel request).given = none → c.Aside :=
    fun _ hc _ => hc
  cases request with
  | transmit c | exchange c =>
    exact ((h.transmit c k).map Answer.response).weaken (fun _ _ hgiven => nomatch hgiven)
  | atr => exact ((h.atr k).map Answer.atr).weaken haside
  | protocol => exact ((h.protocol k).map Answer.protocol).weaken haside
  | number => exact fun r => ⟨rfl, .refl _ r⟩
  | beginExclusive => exact ((h.beginExclusive k).map fun _ => Answer.done).weaken haside
  | endExclusive => exact ((h.endExclusive k).map fun _ => Answer.done).weaken haside
  | disconnect reset => exact ((h.disconnect reset k).map fun _ => Answer.done).weaken haside
  | close => exact ((h.close k).map fun _ => Answer.done).weaken haside
  | isWrapped => exact fun r => ⟨rfl, .refl _ r⟩
  | card request =>
    cases request with
    | basicTransmit c | logicalTransmit c =>
      exact ((h.transmit c k).map Answer.response).weaken (fun _ _ hgiven => nomatch hgiven)
    | atr => exact ((h.atr k).map Answer.atr).weaken haside
    | protocol => exact ((h.protocol k).map Answer.protocol).weaken haside
    | beginExclusive => exact ((h.beginExclusive k).map fun _ => Answer.done).weaken haside
    | endExclusive => exact ((h.endExclusive k).map fun _ => Answer.done).weaken haside
    | disconnect reset => exact ((h.disconnect reset k).map fun _ => Answer.done).weaken haside
    | basicNumber => exact fun r => ⟨rfl, .refl _ r⟩

omit [Host W] [CardChannel (Journal W) κ] [ChannelTraits κ] in
theorem quiet_channel {ε : Type} (answer : Except ε Answer) :
    (answer.map NormalizedAnswer.channel).map NormalizedAnswer.quiet = answer.map .channel := by
  cases answer <;> rfl

theorem perform_quiet (h : Oblivious W κ) (request : NormalizedRequest) (n : Normalized κ) (r : Journal W) :
    request.quiet.perform n.quiet r.quiet =
      ((request.perform n r).1.map NormalizedAnswer.quiet, (request.perform n r).2.1.quiet,
        (request.perform n r).2.2.quiet) := by
  have hinner : ∀ request : ChannelRequest, (NormalizedRequest.inner request).perform n.quiet r.quiet =
      (((NormalizedRequest.inner request).perform n r).1.map NormalizedAnswer.quiet,
        ((NormalizedRequest.inner request).perform n r).2.1.quiet,
        ((NormalizedRequest.inner request).perform n r).2.2.quiet) := by
    intro request
    have hends : n.quiet.mapInner (request.perform n.quiet.inner r.quiet) = _ :=
      n.mapInner_quiet (request_unaware h request n.inner) r
    simp only [NormalizedRequest.perform, hends, Outcome.map, quiet_channel]
    rfl
  cases request with
  | channel request =>
    cases hgiven : (NormalizedRequest.channel request).given with
    | some c =>
      simp only [NormalizedRequest.quiet, perform_given hgiven, transmit_quiet h, Outcome.map, quiet_channel]
      rfl
    | none =>
      by_cases hflag : request = .isWrapped
      · subst hflag
        rfl
      · simp only [NormalizedRequest.quiet, perform_direct hgiven hflag]
        exact hinner request
  | inner request => exact hinner request
  | transmitBuffer bytes buffer =>
    simp only [NormalizedRequest.quiet, NormalizedRequest.perform, transmitBuffer_quiet h]
    rcases n.transmitBuffer bytes buffer r with ⟨⟨e | written, n', r'⟩, buffer'⟩
    · rfl
    · rfl
  | change changes =>
    simp only [NormalizedRequest.quiet, NormalizedRequest.perform]
    have hchanged := n.options.quiet_changes changes
    have hoptions : n.quiet.options = n.options.quiet := rfl
    rw [hoptions, hchanged]
    rfl
  | _ => rfl

end Normalized

/-! ## Along the calls -/

/-- What a call on a normalizing channel puts down: an exchange if it hands over a command, and else no events. Only
calls that go around normalization exchange anything then. -/
def NormalizedRequest.Presents [ChannelTraits κ] (request : NormalizedRequest) (n : Normalized κ) (r : Journal W) :
    Prop :=
  match request.given with
  | some c => n.Presents c r ∧ (request.perform n r).2 = (n.transmit c r).2
  | none => Adds (fun c => request.isDirect = false → c.Aside) r (request.perform n r).2.2

namespace Normalized

variable [ChannelTraits κ]

theorem perform_presents (h : Oblivious W κ) (request : NormalizedRequest) (n : Normalized κ) (r : Journal W) :
    request.Presents n r := by
  cases request with
  | channel request =>
    unfold NormalizedRequest.Presents
    cases hgiven : (NormalizedRequest.channel request).given with
    | some c =>
      rw [perform_given hgiven]
      exact ⟨transmit_presents h c n r, rfl⟩
    | none =>
      by_cases hflag : request = .isWrapped
      · subst hflag
        exact .refl _ r
      · rw [perform_direct hgiven hflag]
        exact (request_unaware h request n.inner r).2.weaken fun c hc _ => hc hgiven
  | inner request =>
    refine (request_unaware h request n.inner r).2.weaken ?_
    intro c _ hdirect
    cases hdirect
  | transmitBuffer bytes buffer =>
    cases hparse : Command.parse bytes with
    | error e =>
      simp only [NormalizedRequest.Presents, NormalizedRequest.given, NormalizedRequest.perform, transmitBuffer, hparse]
      exact .refl _ r
    | ok c =>
      simp only [NormalizedRequest.Presents, NormalizedRequest.given, NormalizedRequest.perform, transmitBuffer, hparse]
      refine ⟨transmit_presents h c n r, ?_⟩
      rcases n.transmit c r with ⟨e | response, n', r'⟩
      · rfl
      · simp only
        split <;> rfl
  | _ => exact .refl _ r

/-- Runs that differ in debugging only end alike. -/
theorem run_quiet (h : Oblivious W κ) (requests : List NormalizedRequest) (n : Normalized κ) (r : Journal W) :
    n.quiet.run r.quiet (requests.map NormalizedRequest.quiet) =
      ((n.run r requests).1.map (Except.map NormalizedAnswer.quiet), (n.run r requests).2.1.quiet,
        (n.run r requests).2.2.quiet) := by
  induction requests generalizing n r with
  | nil => rfl
  | cons request requests ih =>
    simp only [List.map_cons, run, perform_quiet h, ih]

end Normalized

/-- Two runs that differ in what they show only: the answers, the state, the last command that was handed on, the
world and the calls that left for it. -/
structure EndAlike {α σ : Type} (quietAnswer : α → α) (quiet : σ → σ) (lastCommand : σ → Option Command)
    (o o' : List α × σ × Journal W) : Prop where
  answers : o.1.map quietAnswer = o'.1.map quietAnswer
  state : quiet o.2.1 = quiet o'.2.1
  lastCommand : lastCommand o.2.1 = lastCommand o'.2.1
  world : o.2.2.world = o'.2.2.world
  calls : o.2.2.calls = o'.2.2.calls

omit [Host W] [CardChannel (Journal W) κ] in
theorem EndAlike.of_quiet {α σ : Type} {quietAnswer : α → α} {quiet : σ → σ} {lastCommand : σ → Option Command}
    {o o' : List α × σ × Journal W} (hlast : ∀ s, lastCommand (quiet s) = lastCommand s)
    (h : (o.1.map quietAnswer, quiet o.2.1, o.2.2.quiet) = (o'.1.map quietAnswer, quiet o'.2.1, o'.2.2.quiet)) :
    EndAlike quietAnswer quiet lastCommand o o' := by
  simp only [Prod.mk.injEq] at h
  obtain ⟨hanswers, hstate, hjournal⟩ := h
  obtain ⟨hworld, hcalls⟩ := Journal.quiet_eq_iff.mp hjournal
  refine ⟨hanswers, hstate, ?_, hworld, hcalls⟩
  rw [← hlast, hstate, hlast]

namespace Normalized

variable [ChannelTraits κ]

/-- Channels that differ in the debug flag, with calls that differ in debug flags, end alike. -/
theorem run_alike (h : Oblivious W κ) {n n' : Normalized κ} (r : Journal W) {calls calls' : List NormalizedRequest}
    (hn : n.quiet = n'.quiet) (hcalls : calls.map NormalizedRequest.quiet = calls'.map NormalizedRequest.quiet) :
    EndAlike (Except.map NormalizedAnswer.quiet) quiet lastCommand (n.run r calls) (n'.run r calls') := by
  refine .of_quiet (fun _ => rfl) ?_
  rw [← run_quiet h, ← run_quiet h, hn, hcalls]

end Normalized
end
end CardLink
