import CardLink.Proofs.Normalization.Debugging

/-!
# Transmitting from and into buffers

Raw bytes are transmitted as the command that they encode, with everything that this does to the channel and the
world, or not at all. The response is written to the front of the buffer whole, and the rest of the buffer stays; if
it does not fit, or there is none, nothing is written.
-/

namespace CardLink

/-! ## Writing to the front of a buffer -/

/-- The buffer with those bytes in place of its first ones. -/
def overwrite (front buffer : Bytes) : Bytes := front ++ buffer.drop front.length

section

variable {front buffer : Bytes}

theorem take_overwrite : (overwrite front buffer).take front.length = front := List.take_left

theorem drop_overwrite : (overwrite front buffer).drop front.length = buffer.drop front.length := List.drop_left

theorem length_overwrite (h : front.length ≤ buffer.length) : (overwrite front buffer).length = buffer.length := by
  rw [overwrite, List.length_append, List.length_drop]
  omega

end

namespace Normalized

variable {W κ : Type}

/-! ## What can come of it -/

/-- What transmitting into a buffer makes of an exchange: the exchange failed, or its response does not fit, or the
response is written. -/
inductive Buffered (buffer : Bytes) :
    Outcome (Normalized κ) W Response → Outcome (Normalized κ) W Nat × Bytes → Prop where
  | failed (e : ChannelError) (n : Normalized κ) (w : W) : Buffered buffer (.error e, n, w) ((.error e, n, w), buffer)
  | overflows (response : Response) (n : Normalized κ) (w : W) (hlong : buffer.length < response.encode.length) :
    Buffered buffer (.ok response, n, w)
      ((.error (.bufferTooSmall response.encode.length buffer.length), n, w), buffer)
  | written (response : Response) (n : Normalized κ) (w : W) (hfits : response.encode.length ≤ buffer.length) :
    Buffered buffer (.ok response, n, w)
      ((.ok response.encode.length, n, w), overwrite response.encode buffer)

namespace Buffered

variable {buffer : Bytes} {t : Outcome (Normalized κ) W Response} {o : Outcome (Normalized κ) W Nat × Bytes}

theorem effect (h : Buffered buffer t o) : o.1.2 = t.2 := by
  cases h with
  | failed => rfl
  | overflows => rfl
  | written => rfl

theorem ok_iff (h : Buffered buffer t o) (written : Nat) :
    o.1.1 = .ok written ↔
      ∃ response, t.1 = .ok response ∧ response.encode.length = written ∧ written ≤ buffer.length := by
  cases h with
  | failed e n w =>
    constructor
    · intro hok
      cases hok
    · rintro ⟨response, hok, -⟩
      cases hok
  | overflows response n w hlong =>
    constructor
    · intro hok
      cases hok
    · rintro ⟨response', hok, rfl, hfits⟩
      cases hok
      omega
  | written response n w hfits =>
    constructor
    · intro hok
      cases hok
      exact ⟨response, rfl, rfl, hfits⟩
    · rintro ⟨response', hok, rfl, -⟩
      cases hok
      rfl

theorem error_iff (h : Buffered buffer t o) (e : ChannelError) :
    o.1.1 = .error e ↔
      t.1 = .error e ∨
        ∃ response, t.1 = .ok response ∧ buffer.length < response.encode.length ∧
          e = .bufferTooSmall response.encode.length buffer.length := by
  cases h with
  | failed e' n w =>
    constructor
    · intro he
      cases he
      exact Or.inl rfl
    · rintro (he | ⟨response, hok, -⟩)
      · cases he
        rfl
      · cases hok
  | overflows response n w hlong =>
    constructor
    · intro he
      cases he
      exact Or.inr ⟨response, rfl, hlong, rfl⟩
    · rintro (he | ⟨response', hok, -, rfl⟩)
      · cases he
      · cases hok
        rfl
  | written response n w hfits =>
    constructor
    · intro he
      cases he
    · rintro (he | ⟨response', hok, hlong, -⟩)
      · cases he
      · cases hok
        omega

theorem untouched (h : Buffered buffer t o) {e : ChannelError} (he : o.1.1 = .error e) : o.2 = buffer := by
  cases h with
  | failed => rfl
  | overflows => rfl
  | written => cases he

/-- The response stands at the front of the buffer, and the rest is as it was. -/
theorem front (h : Buffered buffer t o) {response : Response} (hok : t.1 = .ok response)
    (hfits : response.encode.length ≤ buffer.length) :
    o.2.take response.encode.length = response.data ++ [response.status.sw1, response.status.sw2] ∧
      o.2.drop response.encode.length = buffer.drop response.encode.length ∧ o.2.length = buffer.length := by
  cases h with
  | failed => cases hok
  | overflows response' n w hlong =>
    cases hok
    omega
  | written response' n w _ =>
    cases hok
    exact ⟨take_overwrite, drop_overwrite, length_overwrite hfits⟩

end Buffered

variable [Host W]

section

variable [CardChannel W κ] {bytes : Bytes} {n : Normalized κ}

/-- Transmits the command that the bytes encode. Bytes that are no command change nothing. -/
def transmitBytes (bytes : Bytes) (n : Normalized κ) (w : W) : Outcome (Normalized κ) W Response :=
  match Command.parse bytes with
  | .error e => (.error (.command e), n, w)
  | .ok c => n.transmit c w

theorem transmitBytes_unparsed {e : CommandError} (hparse : Command.parse bytes = .error e) (w : W) :
    n.transmitBytes bytes w = (.error (.command e), n, w) := by
  rw [transmitBytes, hparse]

theorem transmitBytes_parsed {c : Command} (hparse : Command.parse bytes = .ok c) (w : W) :
    n.transmitBytes bytes w = n.transmit c w := by
  rw [transmitBytes, hparse]

theorem transmitBuffer_buffered (bytes buffer : Bytes) (n : Normalized κ) (w : W) :
    Buffered buffer (n.transmitBytes bytes w) (n.transmitBuffer bytes buffer w) := by
  unfold transmitBuffer
  cases hparse : Command.parse bytes with
  | error e =>
    rw [transmitBytes_unparsed hparse]
    exact .failed _ n w
  | ok c =>
    rw [transmitBytes_parsed hparse]
    rcases htransmit : n.transmit c w with ⟨e | response, n', w'⟩
    · simp only [htransmit]
      exact .failed e n' w'
    · by_cases hlong : buffer.length < response.encode.length
      · simp only [htransmit, hlong, if_true]
        exact .overflows response n' w' hlong
      · simp only [htransmit, hlong, if_false]
        exact .written response n' w' (by omega)

end

/-! ## Calls on the channel inside -/

section

variable [CardChannel W κ]

omit [CardChannel W κ] in
theorem calls_logIf (debug : Bool) (e : LogEvent) (r : Journal W) : (logIf debug e r).calls = r.calls :=
  (Journal.quiet_eq_iff.mp (quiet_logIf debug e r)).2

omit [Host W] [CardChannel W κ] in
theorem calls_called (r : Journal W) (w : W) (c : OutwardCall) : (r.called w c).calls = r.calls ++ [c] := by
  simp [Journal.calls, Journal.called, Entry.call?]

theorem transmit_calls (c : Command) (n : Normalized (Outside κ)) (r : Journal W) :
    (n.transmit c r).2.2.calls =
      r.calls ++ if (n.normalize c).checkLengths.isOk then [.channel (.transmit (n.normalize c))] else [] := by
  unfold transmit
  cases (n.normalize c).checkLengths with
  | error e => simp [Except.isOk, Except.toBool]
  | ok _ =>
    have hinner : CardChannel.transmit (n.normalize c) n.inner (logIf n.options.debug (.request (n.normalize c)) r) =
        Journal.watch (.channel (.transmit (n.normalize c))) (CardChannel.transmit (n.normalize c)) n.inner
          (logIf n.options.debug (.request (n.normalize c)) r) := rfl
    simp only [forward_of_transmit hinner, calls_logIf, calls_called]
    rfl

/-- The command that the bytes encode is handed on once if it fits. No other call is made. -/
theorem transmitBuffer_calls (bytes buffer : Bytes) (n : Normalized (Outside κ)) (r : Journal W) :
    (n.transmitBuffer bytes buffer r).1.2.2.calls =
      r.calls ++ (((NormalizedRequest.transmitBuffer bytes buffer).accepted n.options).toList.map
        fun c => .channel (.transmit (n.normalize c))) := by
  rw [(transmitBuffer_buffered bytes buffer n r).effect]
  cases hparse : Command.parse bytes with
  | error e =>
    rw [transmitBytes_unparsed hparse]
    simp [NormalizedRequest.accepted, NormalizedRequest.given, hparse, Except.toOption]
  | ok c =>
    rw [transmitBytes_parsed hparse, transmit_calls]
    have hgiven : (NormalizedRequest.transmitBuffer bytes buffer).given = some c := by
      simp [NormalizedRequest.given, hparse, Except.toOption]
    unfold NormalizedRequest.accepted
    rw [hgiven, Option.filter_some, show n.options.normalize c = n.normalize c from rfl]
    by_cases hfits : (n.normalize c).checkLengths.isOk = true
    · rw [if_pos hfits, if_pos hfits]
      rfl
    · rw [if_neg hfits, if_neg hfits]
      rfl

/-- Transmitting into a buffer does to the channel and the world what transmitting the command does, with at most one
call on the channel inside. The response is written whole where it fits, and after an error nothing is written. -/
theorem transmitBuffer_all_or_nothing (bytes buffer : Bytes) (n : Normalized κ) (w : W)
    (watched : Normalized (Outside κ)) (r : Journal W) :
    let t := n.transmitBytes bytes w
    let o := n.transmitBuffer bytes buffer w
    (∀ e, Command.parse bytes = .error e → t = (.error (.command e), n, w)) ∧
    (∀ c, Command.parse bytes = .ok c → t = n.transmit c w) ∧
    o.1.2 = t.2 ∧
    (∀ written, o.1.1 = .ok written ↔
      ∃ response, t.1 = .ok response ∧ response.encode.length = written ∧ written ≤ buffer.length) ∧
    (∀ response, t.1 = .ok response → response.encode.length ≤ buffer.length →
      o.2.take response.encode.length = response.data ++ [response.status.sw1, response.status.sw2] ∧
      o.2.drop response.encode.length = buffer.drop response.encode.length ∧ o.2.length = buffer.length) ∧
    (∀ e, o.1.1 = .error e ↔ t.1 = .error e ∨
      ∃ response, t.1 = .ok response ∧ buffer.length < response.encode.length ∧
        e = .bufferTooSmall response.encode.length buffer.length) ∧
    (∀ e, o.1.1 = .error e → o.2 = buffer) ∧
    (watched.transmitBuffer bytes buffer r).1.2.2.calls =
      r.calls ++ (((NormalizedRequest.transmitBuffer bytes buffer).accepted watched.options).toList.map
        fun c => .channel (.transmit (watched.normalize c))) := by
  intro t o
  have hbuffered : Buffered buffer t o := transmitBuffer_buffered bytes buffer n w
  refine ⟨?_, ?_, hbuffered.effect, hbuffered.ok_iff, ?_, hbuffered.error_iff, ?_, ?_⟩
  · intro e hparse
    exact transmitBytes_unparsed hparse w
  · intro c hparse
    exact transmitBytes_parsed hparse w
  · intro response hok hfits
    exact hbuffered.front hok hfits
  · intro e he
    exact hbuffered.untouched he
  · exact transmitBuffer_calls bytes buffer watched r

open Scripted in
/-- A response of four bytes into a buffer of six and into one of two. -/
theorem transmitBuffer_all_or_nothing_read :
    let card : Card := { replies := [.raw [0x01, 0x02, 0x90, 0x00]] }
    let plain : Normalized Card := { inner := card, options := {} }
    let watched : Normalized (Outside Card) := { inner := ⟨card⟩, options := {} }
    let bytes : Bytes := [0x00, 0xB0, 0x00, 0x00]
    let roomy := plain.transmitBuffer bytes [7, 7, 7, 7, 7, 7] ({} : World)
    let tight := plain.transmitBuffer bytes [7, 7] ({} : World)
    roomy.1.1 = .ok 4 ∧ roomy.2 = [0x01, 0x02, 0x90, 0x00] ++ [7, 7] ∧
      tight.1.1 = .error (.bufferTooSmall 4 2) ∧ tight.2 = [7, 7] ∧
      (watched.transmitBuffer bytes [7, 7] (⟨{}, []⟩ : Journal World)).1.2.2.calls.length = 1 := by
  intro card plain watched bytes roomy tight
  obtain ⟨-, -, -, hok, hfront, -, -, -⟩ :=
    transmitBuffer_all_or_nothing bytes [7, 7, 7, 7, 7, 7] plain ({} : World) watched ⟨{}, []⟩
  obtain ⟨-, -, -, -, -, herror, huntouched, hcalls⟩ :=
    transmitBuffer_all_or_nothing bytes [7, 7] plain ({} : World) watched ⟨{}, []⟩
  have hresponse : (plain.transmitBytes bytes ({} : World)).1 = .ok ⟨[0x01, 0x02], ⟨0x90, 0x00⟩⟩ := rfl
  obtain ⟨htake, hdrop, -⟩ := hfront _ hresponse (by decide)
  have hsmall := (herror (.bufferTooSmall 4 2)).mpr (Or.inr ⟨_, hresponse, by decide, rfl⟩)
  refine ⟨(hok 4).mpr ⟨_, hresponse, rfl, by decide⟩, ?_, hsmall, huntouched _ hsmall, ?_⟩
  · have hfirst : roomy.2.take 4 = [0x01, 0x02, 0x90, 0x00] := htake
    have hlast : roomy.2.drop 4 = [7, 7] := hdrop
    rw [← List.take_append_drop 4 roomy.2, hfirst, hlast]
  · rw [hcalls]
    rfl

end

end Normalized
end CardLink
