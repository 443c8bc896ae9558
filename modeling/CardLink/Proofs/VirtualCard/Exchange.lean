import CardLink.Proofs.VirtualCard.DirectRun
import CardLink.VirtualCard.Session

/-!
# Calls on a session

A call on a session opens the connection if there is none, writes one frame and reads one. Whatever comes
of it, the session stays on the connection.
-/

namespace CardLink.VirtualCard

namespace Session

/-- The session stands on a connection with that codec. -/
structure IsOn (c : Codec) (s : Session) : Prop where
  opened : s.closed = false
  link : ∃ id, s.link = some ⟨id, c⟩

variable {W : Type} [Network W]

theorem open_isOn {s : Session} {c : Codec} (h : s.IsOn c) (w : W) :
    ∃ id, s.open? w = (.ok ⟨id, c⟩, s, w) := by
  obtain ⟨id, hlink⟩ := h.link
  exact ⟨id, by simp [open?, h.opened, hlink]⟩

theorem withCodec_isOn {s : Session} {c c' : Codec} (h : s.IsOn c) (link : Link) :
    (s.withCodec link c').IsOn c' :=
  ⟨h.opened, link.id, rfl⟩

end Session

namespace CardCall

def write : CardCall → Codec → Except TransportError Unit × Codec
  | .transmit c => Codec.writeData c.encode
  | .atr => Codec.writeCommand .getAtr

/-- What a failed exchange is reported as. -/
def failure (e : TransportError) : CardCall → ChannelError
  | .transmit _ => .transmit e
  | .atr => .transport e

theorem write_takesAll {call : CardCall} (hc : call.Encodable) {c : Codec} (h : c.sink.TakesAll) :
    ∃ c', call.write c = (.ok (), c') ∧ Codec.Wrote (Frame.encode call.payload) c c' := by
  cases call with
  | transmit command => exact Codec.writeData_takesAll h (length_payload_le hc)
  | atr => exact Codec.writeCommand_takesAll h .getAtr

/-- The bytes of the request, none if it is too long for a frame. -/
def frame (call : CardCall) : Bytes :=
  if call.payload.length ≤ Frame.maxPayload then Frame.encode call.payload else []

/-- A sink that takes all writes gets the request, unless that is too long for a frame. -/
theorem write_or_refuse (call : CardCall) {c : Codec} (h : c.sink.TakesAll) :
    (call.payload.length ≤ Frame.maxPayload ∧
      ∃ c', call.write c = (.ok (), c') ∧ Codec.Wrote (Frame.encode call.payload) c c') ∨
    Frame.maxPayload < call.payload.length ∧
      call.write c = (.error (.frameTooLarge call.payload.length Frame.maxPayload), c) := by
  cases call with
  | transmit command =>
    by_cases hlen : command.encode.length ≤ Frame.maxPayload
    · exact Or.inl ⟨hlen, Codec.writeData_takesAll h hlen⟩
    · refine Or.inr ⟨Nat.lt_of_not_le hlen, ?_⟩
      rw [write, Codec.writeData, if_pos (Nat.lt_of_not_le hlen), payload]
  | atr =>
    refine Or.inl ⟨?_, Codec.writeCommand_takesAll h .getAtr⟩
    simp [payload, Frame.maxPayload]

/-- What an exchange sends does not depend on what it reads. -/
theorem exchange_sends (call : CardCall) {c : Codec} (h : c.sink.TakesAll) :
    (Session.exchange call.write c).2.sink.TakesAll ∧
      (Session.exchange call.write c).2.sink.accepted = c.sink.accepted ++ call.frame := by
  unfold Session.exchange frame
  rcases call.write_or_refuse h with ⟨hfits, c₁, hwrite, hwrote⟩ | ⟨hlong, hwrite⟩
  · obtain ⟨source, hread⟩ := Codec.readResponse_source c₁
    rw [hwrite, if_pos hfits]
    simp only [hread]
    exact ⟨hwrote.takesAll, hwrote.accepted⟩
  · rw [hwrite, if_neg (Nat.not_le.mpr hlong), List.append_nil]
    exact ⟨h, rfl⟩

def report (outcome : Except TransportError Bytes) (call : CardCall) : Except ChannelError Answer :=
  match outcome with
  | .error e => .error (call.failure e)
  | .ok raw => call.understand raw

variable {W : Type} [Network W]

theorem perform_of_open {s s' : Session} {link : Link} {w w' : W}
    (hopen : s.open? w = (.ok link, s', w')) (call : CardCall) :
    call.perform s w =
      (call.report (Session.exchange call.write link.codec).1,
        s'.withCodec link (Session.exchange call.write link.codec).2, w') := by
  cases call with
  | transmit command =>
    simp only [perform, CardChannel.transmit, Session.transmit, hopen, write]
    rcases Session.exchange (Codec.writeData command.encode) link.codec with ⟨outcome, c⟩
    cases outcome with
    | error e => rfl
    | ok raw =>
      simp only [Outcome.map, report, understand]
      cases Response.parse raw <;> rfl
  | atr =>
    simp only [perform, CardChannel.atr, Session.atr, hopen, write]
    rcases Session.exchange (Codec.writeCommand .getAtr) link.codec with ⟨outcome, c⟩
    cases outcome <;> rfl

theorem perform_of_refused {s s' : Session} {e : ChannelError} {w w' : W}
    (hopen : s.open? w = (.error e, s', w')) (call : CardCall) :
    call.perform s w = (.error e, s', w') := by
  cases call with
  | transmit command =>
    simp only [perform, CardChannel.transmit, Session.transmit, hopen]
    rfl
  | atr =>
    simp only [perform, CardChannel.atr, Session.atr, hopen]
    rfl

/-- On an open connection a call is an exchange of one frame for another. -/
theorem perform_isOn {s : Session} {c : Codec} (hs : s.IsOn c) (call : CardCall) (w : W) :
    (call.perform s w).1 = call.report (Session.exchange call.write c).1 ∧
    (call.perform s w).2.1.IsOn (Session.exchange call.write c).2 ∧
    (call.perform s w).2.2 = w := by
  obtain ⟨id, hopen⟩ := Session.open_isOn hs w
  rw [perform_of_open hopen]
  exact ⟨rfl, Session.withCodec_isOn hs _, rfl⟩

/-- A call first opens the connection, then does the same as on an open one. -/
theorem perform_open {s s' : Session} {link : Link} {w w' : W}
    (hopen : s.open? w = (.ok link, s', w')) (hopened : s'.closed = false)
    (hlink : s'.link = some link) (call : CardCall) : call.perform s w = call.perform s' w' := by
  have hagain : s'.open? w' = (.ok link, s', w') := by simp [Session.open?, hopened, hlink]
  rw [perform_of_open hopen, perform_of_open hagain]

end CardCall
end CardLink.VirtualCard
