import CardLink.Normalization.Channel
import CardLink.Proofs.Apdu.Parsing
import CardLink.Scripted.Card

/-!
# What reaches the channel inside

The channel inside a normalizing channel is watched by a record of the commands it is given. The record
changes nothing, and along any calls that do not go around normalization it holds the callers' commands
that fit, normalized, and nothing else. The last of them is what the normalizing channel remembers.
-/

namespace CardLink

/-- A channel beside the commands it was given, the first one first. -/
structure Recorded (κ : Type) where
  channel : κ
  received : List Command := []

namespace Recorded

variable {W κ : Type}

instance [ChannelTraits κ] : ChannelTraits (Recorded κ) where
  number r := ChannelTraits.number r.channel
  isWrapped r := ChannelTraits.isWrapped r.channel

instance [CardChannel W κ] : CardChannel W (Recorded κ) where
  transmit c r w := (CardChannel.transmit c r.channel w).lift fun k => ⟨k, r.received ++ [c]⟩
  atr r w := (CardChannel.atr r.channel w).lift fun k => { r with channel := k }
  close r w := (CardChannel.close r.channel w).lift fun k => { r with channel := k }
  protocol r w := (CardChannel.protocol r.channel w).lift fun k => { r with channel := k }
  beginExclusive r w := (CardChannel.beginExclusive r.channel w).lift fun k => { r with channel := k }
  endExclusive r w := (CardChannel.endExclusive r.channel w).lift fun k => { r with channel := k }
  disconnect reset r w := (CardChannel.disconnect reset r.channel w).lift fun k => { r with channel := k }
  release r w := CardChannel.release r.channel w

end Recorded

/-! ## The calls -/

namespace NormalizedRequest

/-- The command that a caller hands over with the call. -/
def given : NormalizedRequest → Option Command
  | .channel (.transmit c) | .channel (.exchange c) => some c
  | .channel (.card (.basicTransmit c)) | .channel (.card (.logicalTransmit c)) => some c
  | .transmitBuffer bytes _ => (Command.parse bytes).toOption
  | _ => none

def isDirect : NormalizedRequest → Bool
  | .inner _ => true
  | _ => false

def optionsAfter (o : NormalizeOptions) : NormalizedRequest → NormalizeOptions
  | .change changes => changes.foldl NormalizeOptions.change o
  | .setOptions o' => o'
  | _ => o

/-- The command of the call, if it fits after normalization. -/
def accepted (o : NormalizeOptions) (request : NormalizedRequest) : Option Command :=
  request.given.filter fun c => (o.normalize c).checkLengths.isOk

/-- The accepted commands of the calls in order, each with the options in force. -/
def acceptedAlong (o : NormalizeOptions) : List NormalizedRequest → List (NormalizeOptions × Command)
  | [] => []
  | request :: requests =>
    ((request.accepted o).map fun c => (o, c)).toList ++ acceptedAlong (request.optionsAfter o) requests

end NormalizedRequest

namespace Normalized

section

variable {W κ : Type} [ChannelTraits κ] [Host W] [CardChannel W κ]

/-- The results of the calls in order, and the channel and the world after them. -/
def run (n : Normalized κ) (w : W) :
    List NormalizedRequest → List (Except ChannelError NormalizedAnswer) × Normalized κ × W
  | [] => ([], n, w)
  | request :: requests =>
    let (result, n, w) := request.perform n w
    let (results, n, w) := n.run w requests
    (result :: results, n, w)

end

def unrecorded {κ : Type} (n : Normalized (Recorded κ)) : Normalized κ :=
  ⟨n.inner.channel, n.options, n.lastCommand, n.lastDuration⟩

variable {W κ : Type} [ChannelTraits κ] [Host W] [CardChannel W κ]

omit [ChannelTraits κ] in
theorem transmit_unrecorded (c : Command) (n : Normalized (Recorded κ)) (w : W) :
    n.unrecorded.transmit c w = (n.transmit c w).lift unrecorded := by
  have hnormalize : n.unrecorded.normalize c = n.normalize c := rfl
  unfold transmit
  rw [hnormalize]
  cases (n.normalize c).checkLengths with
  | error e => rfl
  | ok _ => rfl

omit [ChannelTraits κ] in
theorem transmitBuffer_unrecorded (bytes buffer : Bytes) (n : Normalized (Recorded κ)) (w : W) :
    n.unrecorded.transmitBuffer bytes buffer w =
      ((n.transmitBuffer bytes buffer w).1.lift unrecorded, (n.transmitBuffer bytes buffer w).2) := by
  unfold transmitBuffer
  cases Command.parse bytes with
  | error e => rfl
  | ok c =>
    simp only [transmit_unrecorded]
    rcases n.transmit c w with ⟨result, n', w'⟩
    cases result with
    | error e => rfl
    | ok response =>
      simp only [Outcome.lift]
      split <;> rfl

omit [ChannelTraits κ] in
theorem exchange_unrecorded (c : Command) (n : Normalized (Recorded κ)) (w : W) :
    ((n.unrecorded.transmit c w).map Answer.response).map NormalizedAnswer.channel =
      (((n.transmit c w).map Answer.response).map NormalizedAnswer.channel).lift unrecorded := by
  rw [transmit_unrecorded]
  rfl

/-- The record does not interfere. -/
theorem perform_unrecorded (request : NormalizedRequest) (n : Normalized (Recorded κ)) (w : W) :
    request.perform n.unrecorded w = (request.perform n w).lift unrecorded := by
  cases request with
  | channel request =>
    cases request with
    | transmit c => exact exchange_unrecorded c n w
    | exchange c => exact exchange_unrecorded c n w
    | card request =>
      cases request with
      | basicTransmit c => exact exchange_unrecorded c n w
      | logicalTransmit c => exact exchange_unrecorded c n w
      | _ => rfl
    | _ => rfl
  | transmitBuffer bytes buffer =>
    simp only [NormalizedRequest.perform, transmitBuffer_unrecorded]
    rfl
  | inner request =>
    cases request with
    | card request => cases request <;> rfl
    | _ => rfl
  | _ => rfl

theorem run_unrecorded (requests : List NormalizedRequest) (n : Normalized (Recorded κ)) (w : W) :
    n.unrecorded.run w requests =
      ((n.run w requests).1, (n.run w requests).2.1.unrecorded, (n.run w requests).2.2) := by
  induction requests generalizing n w with
  | nil => rfl
  | cons request requests ih =>
    simp only [run, perform_unrecorded, Outcome.lift, ih]

theorem perform_given {r : ChannelRequest} {command : Command}
    (h : (NormalizedRequest.channel r).given = some command) (n : Normalized κ) (w : W) :
    (NormalizedRequest.channel r).perform n w = ((n.transmit command w).map .response).map .channel := by
  cases r with
  | transmit c | exchange c =>
    cases h
    rfl
  | card r =>
    cases r with
    | basicTransmit c | logicalTransmit c =>
      cases h
      rfl
    | _ => cases h
  | _ => cases h

/-- A call without a command goes straight to the channel inside. -/
theorem perform_direct {r : ChannelRequest} (h : (NormalizedRequest.channel r).given = none) (hflag : r ≠ .isWrapped)
    (n : Normalized κ) (w : W) :
    (NormalizedRequest.channel r).perform n w = (NormalizedRequest.inner r).perform n w := by
  cases r with
  | transmit | exchange => cases h
  | isWrapped => exact absurd rfl hflag
  | card r =>
    cases r with
    | basicTransmit | logicalTransmit => cases h
    | _ => rfl
  | _ => rfl

/-! ## What is handed on -/

/-- One call hands on at most that command, remembers it, and leaves those options. -/
structure HandsOn (handed : Option Command) (o : NormalizeOptions) (n n' : Normalized (Recorded κ)) :
    Prop where
  options : n'.options = o
  received : n'.inner.received = n.inner.received ++ handed.toList
  lastCommand : n'.lastCommand = handed.or n.lastCommand

omit [ChannelTraits κ] [Host W] [CardChannel W κ] in
theorem HandsOn.nothing {n n' : Normalized (Recorded κ)} {o : NormalizeOptions} (ho : n'.options = o)
    (hreceived : n'.inner.received = n.inner.received) (hlast : n'.lastCommand = n.lastCommand) :
    HandsOn none o n n' :=
  ⟨ho, by simpa using hreceived, hlast⟩

omit [ChannelTraits κ] in
theorem transmit_handsOn (c : Command) (n : Normalized (Recorded κ)) (w : W) :
    HandsOn (((some c).filter fun c => (n.normalize c).checkLengths.isOk).map n.normalize) n.options n
      (n.transmit c w).2.1 := by
  unfold transmit
  cases h : (n.normalize c).checkLengths with
  | error e =>
    have hrejected : (some c).filter (fun c => (n.normalize c).checkLengths.isOk) = none := by
      simp [h, Except.isOk, Except.toBool]
    rw [hrejected]
    exact .nothing rfl rfl rfl
  | ok _ =>
    have haccepted : (some c).filter (fun c => (n.normalize c).checkLengths.isOk) = some c := by
      simp [h, Except.isOk, Except.toBool]
    rw [haccepted]
    exact ⟨rfl, rfl, rfl⟩

omit [ChannelTraits κ] in
theorem transmitBuffer_handsOn (bytes buffer : Bytes) (n : Normalized (Recorded κ)) (w : W) :
    HandsOn (((Command.parse bytes).toOption.filter fun c => (n.normalize c).checkLengths.isOk).map
      n.normalize) n.options n (n.transmitBuffer bytes buffer w).1.2.1 := by
  unfold transmitBuffer
  cases Command.parse bytes with
  | error e => exact .nothing rfl rfl rfl
  | ok c =>
    have hstep := transmit_handsOn c n w
    simp only
    rcases htransmit : n.transmit c w with ⟨result, n', w'⟩
    rw [htransmit] at hstep
    cases result with
    | error e => exact hstep
    | ok response =>
      simp only
      split <;> exact hstep

theorem perform_handsOn {request : NormalizedRequest} (hr : request.isDirect = false)
    (n : Normalized (Recorded κ)) (w : W) :
    HandsOn ((request.accepted n.options).map n.normalize) (request.optionsAfter n.options) n
      (request.perform n w).2.1 := by
  cases request with
  | channel request =>
    cases request with
    | transmit c => exact transmit_handsOn c n w
    | exchange c => exact transmit_handsOn c n w
    | card request =>
      cases request with
      | basicTransmit c => exact transmit_handsOn c n w
      | logicalTransmit c => exact transmit_handsOn c n w
      | _ => exact .nothing rfl rfl rfl
    | _ => exact .nothing rfl rfl rfl
  | transmitBuffer bytes buffer => exact transmitBuffer_handsOn bytes buffer n w
  | inner request => cases hr
  | _ => exact .nothing rfl rfl rfl

theorem run_handsOn {requests : List NormalizedRequest} (hr : ∀ r ∈ requests, r.isDirect = false)
    (n : Normalized (Recorded κ)) (w : W) {handed : List Command}
    (hhanded : (NormalizedRequest.acceptedAlong n.options requests).map (fun p => p.1.normalize p.2) = handed) :
    (n.run w requests).2.1.options = requests.foldl NormalizedRequest.optionsAfter n.options ∧
      (n.run w requests).2.1.inner.received = n.inner.received ++ handed ∧
      (n.run w requests).2.1.lastCommand = handed.getLast?.or n.lastCommand := by
  subst hhanded
  induction requests generalizing n w with
  | nil => exact ⟨rfl, (List.append_nil _).symm, rfl⟩
  | cons request requests ih =>
    have hstep := perform_handsOn (hr request List.mem_cons_self) n w
    obtain ⟨hoptions, hreceived, hlast⟩ :=
      ih (fun r hmem => hr r (List.mem_cons_of_mem _ hmem)) (request.perform n w).2.1 (request.perform n w).2.2
    rw [hstep.options] at hoptions hreceived hlast
    simp only [run, List.foldl_cons, NormalizedRequest.acceptedAlong, List.map_append, List.getLast?_append]
    refine ⟨hoptions, ?_, ?_⟩
    · rw [hreceived, hstep.received, List.append_assoc]
      cases request.accepted n.options <;> rfl
    · rw [hlast, hstep.lastCommand, Option.or_assoc]
      cases request.accepted n.options <;> rfl

end Normalized

/-! ## The length on the wire -/

namespace Command

/-- The Lc is written, and it is the number of data bytes after it. -/
def HasTrueLc (c : Command) : Prop :=
  ∃ lc, c.encode = c.header ++ lc :: (c.payload ++ leField c.le) ∧ lc.toNat = c.nc

theorem hasTrueLc_iff {c : Command} (h : c.checkLengths = .ok ()) : c.HasTrueLc ↔ c.data ≠ none := by
  obtain ⟨hnc, -⟩ := checkLengths_ok h
  constructor
  · rintro ⟨lc, hencode, -⟩ hnone
    have hlength := congrArg List.length hencode
    simp [encode, payload, hnone, dataField] at hlength
  · intro hdata
    obtain ⟨data, hdata⟩ := Option.ne_none_iff_exists'.mp hdata
    refine ⟨UInt8.ofNat data.length, by simp [encode, payload, hdata, dataField], ?_⟩
    simp only [nc, payload, hdata, Option.getD_some, maxDataLength] at hnc ⊢
    rw [UInt8.toNat_ofNat']
    omega

end Command

theorem NormalizeOptions.normalize_data_ne_none (o : NormalizeOptions) (c : Command) :
    (o.normalize c).data ≠ none ↔ o.fixLc = true ∨ c.data ≠ none := by
  unfold normalize
  by_cases hdata : c.hasData = true
  · have hsome : c.data ≠ none := by
      intro hnone
      simp [Command.hasData, Command.nc, Command.payload, hnone] at hdata
    rw [if_pos hdata]
    by_cases hne : o.effectiveFixNe = true
    · simp [hne, hsome]
    · simp [hne, hsome]
  · rw [if_neg hdata]
    by_cases hlc : o.fixLc = true
    · simp [hlc]
    · simp [hlc]

namespace NormalizedRequest

theorem accepted_fits {o : NormalizeOptions} {request : NormalizedRequest} {c : Command}
    (h : request.accepted o = some c) : (o.normalize c).checkLengths = .ok () := by
  have hok := (Option.filter_eq_some_iff.mp h).2
  cases hcheck : (o.normalize c).checkLengths with
  | error e => simp [hcheck, Except.isOk, Except.toBool] at hok
  | ok _ => rfl

theorem acceptedAlong_fits {o : NormalizeOptions} {requests : List NormalizedRequest}
    {p : NormalizeOptions × Command} (h : p ∈ acceptedAlong o requests) :
    (p.1.normalize p.2).checkLengths = .ok () := by
  induction requests generalizing o with
  | nil => cases h
  | cons request requests ih =>
    rcases List.mem_append.mp h with h | h
    · obtain ⟨c, hc, rfl⟩ := Option.map_eq_some_iff.mp (Option.mem_toList.mp h)
      exact accepted_fits hc
    · exact ih h

/-- Every caller's command is accepted at most once, in the order of the calls. -/
theorem acceptedAlong_sublist (o : NormalizeOptions) (requests : List NormalizedRequest) :
    ((acceptedAlong o requests).map Prod.snd).Sublist (requests.filterMap given) := by
  induction requests generalizing o with
  | nil => exact .slnil
  | cons request requests ih =>
    simp only [acceptedAlong, accepted, List.map_append, List.filterMap_cons]
    cases request.given with
    | none => exact ih _
    | some c =>
      cases hfits : (o.normalize c).checkLengths.isOk with
      | true =>
        simp only [Option.filter_some, hfits, if_true]
        exact (ih _).cons_cons c
      | false =>
        simp only [Option.filter_some, hfits]
        exact (ih _).cons c

end NormalizedRequest

namespace Normalized

variable {W κ : Type} [ChannelTraits κ] [Host W] [CardChannel W κ]

/-- Along any calls through the normalizing channel, what the inner channel received are the accepted
commands, normalized under the options in force, and the last one is remembered. What has a data field
has a true Lc, which is so whenever the Lc is fixed up. -/
theorem received_are_accepted {options : NormalizeOptions} {k : κ} {n : Normalized (Recorded κ)}
    (hwrap : wrap options ⟨k, []⟩ = .ok n) (w : W) {requests : List NormalizedRequest}
    (hthrough : ∀ r ∈ requests, r.isDirect = false) :
    (wrap options k = .ok n.unrecorded ∧ n.unrecorded.run w requests =
      ((n.run w requests).1, (n.run w requests).2.1.unrecorded, (n.run w requests).2.2)) ∧
    (n.run w requests).2.1.options = requests.foldl NormalizedRequest.optionsAfter options ∧
    (n.run w requests).2.1.inner.received =
      (NormalizedRequest.acceptedAlong options requests).map (fun p => p.1.normalize p.2) ∧
    ((NormalizedRequest.acceptedAlong options requests).map Prod.snd).Sublist
      (requests.filterMap NormalizedRequest.given) ∧
    (∀ p ∈ NormalizedRequest.acceptedAlong options requests,
      (p.1.normalize p.2).checkLengths = .ok () ∧
      ((p.1.normalize p.2).HasTrueLc ↔ p.1.fixLc = true ∨ p.2.data ≠ none)) ∧
    (n.run w requests).2.1.lastCommand = (n.run w requests).2.1.inner.received.getLast? := by
  unfold wrap at hwrap
  by_cases hwrapped : ChannelTraits.isWrapped (⟨k, []⟩ : Recorded κ) = true
  · rw [if_pos hwrapped] at hwrap
    cases hwrap
  · rw [if_neg hwrapped] at hwrap
    cases hwrap
    have hplain : wrap options k = .ok ⟨k, options, none, 0⟩ := if_neg hwrapped
    obtain ⟨hoptions, hreceived, hlast⟩ := run_handsOn hthrough { inner := ⟨k, []⟩, options } w rfl
    refine ⟨⟨hplain, run_unrecorded requests _ w⟩, hoptions, hreceived,
      NormalizedRequest.acceptedAlong_sublist options requests, ?_, ?_⟩
    · intro p hp
      have hfits := NormalizedRequest.acceptedAlong_fits hp
      refine ⟨hfits, ?_⟩
      rw [Command.hasTrueLc_iff hfits]
      exact p.1.normalize_data_ne_none p.2
    · rw [hlast, hreceived]
      exact Option.or_none

open Scripted

def timedOut : Recorded Card := ⟨{ replies := [.failure (.transmit .timeout), .raw [0x90, 0x00]] }, []⟩

/-- The first exchange fails, the second command is too much for its options, and the answer to the third
does not fit the buffer. -/
def mixedCalls : List NormalizedRequest :=
  [.channel (.transmit ⟨0x00, 0xB0, 0x00, 0x00, none, some 16⟩),
    .setOptions { fixLc := false, fixNe := some true, defaultNe := some 300 },
    .channel (.card (.basicTransmit (.selectAid [0xA0]))),
    .change [.defaultNe (some 256)],
    .transmitBuffer [0x00, 0xA4, 0x04, 0x00, 0x01, 0xA0] [],
    .channel .atr]

theorem received_are_accepted_mixed :
    (({ inner := timedOut, options := {} } : Normalized (Recorded Card)).run ({} : World)
        mixedCalls).2.1.inner.received =
      [⟨0x00, 0xB0, 0x00, 0x00, some [], none⟩, ⟨0x00, 0xA4, 0x04, 0x00, some [0xA0], some 256⟩] ∧
    (({ inner := timedOut, options := {} } : Normalized (Recorded Card)).run ({} : World)
        mixedCalls).2.1.lastCommand = some ⟨0x00, 0xA4, 0x04, 0x00, some [0xA0], some 256⟩ ∧
    Command.HasTrueLc ⟨0x00, 0xA4, 0x04, 0x00, some [0xA0], some 256⟩ := by
  have hwrap : wrap {} timedOut = .ok { inner := timedOut, options := {} } := rfl
  have hthrough : ∀ r ∈ mixedCalls, r.isDirect = false := by decide
  obtain ⟨-, -, hreceived, -, hfits, hlast⟩ := received_are_accepted hwrap ({} : World) hthrough
  refine ⟨hreceived.trans rfl, ?_, ?_⟩
  · rw [hlast, hreceived]
    rfl
  · exact (hfits ({ fixLc := false, fixNe := some true, defaultNe := some 256 }, .selectAid [0xA0])
      (by decide)).2.mpr (Or.inr (by decide))

/-- While the Lc is not fixed up, a command without data is handed on without an Lc. -/
theorem bare_command_has_no_lc :
    ¬ ∀ c ∈ (({ inner := ⟨{ replies := [.raw [0x90, 0x00]] }, []⟩, options := { fixLc := false } } :
        Normalized (Recorded Card)).run ({} : World)
          [.channel (.transmit ⟨0x00, 0xB0, 0x00, 0x00, none, none⟩)]).2.1.inner.received,
      c.HasTrueLc := by
  intro h
  have hlc : Command.HasTrueLc ⟨0x00, 0xB0, 0x00, 0x00, none, none⟩ := h _ (List.mem_singleton.mpr rfl)
  exact (Command.hasTrueLc_iff rfl).mp hlc rfl

end Normalized
end CardLink
