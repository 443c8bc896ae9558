import CardLink.Proofs.Normalization.Journal
import CardLink.VirtualCard.Session

/-!
# Sessions in a journaled world

All that a session does to the world are calls on the network, which are put down. What it exchanges over an open
connection stays in its codec. So a session cannot tell whether there is a debug log.
-/

namespace CardLink.VirtualCard

open OutwardCall (Aside)
open Journal (Adds)

variable {W : Type} [Network W]

/-! ## Connecting -/

theorem resolve_unaware (host : String) (port : Nat) :
    Unaware (W := W) Aside (Network.resolve host port) :=
  called_unaware trivial (Network.resolve host port) id

theorem dial_call_unaware (address : Address) (deadline : Option Nat) :
    Unaware (W := W) Aside (Network.dial address deadline) :=
  called_unaware trivial (Network.dial address deadline) id

theorem bind_unaware (port : Nat) : Unaware (W := W) Aside (Network.bind port) :=
  called_unaware trivial (Network.bind port) id

theorem accept_call_unaware (port : Nat) (deadline : Option Nat) :
    Unaware (W := W) Aside (Network.accept port deadline) :=
  called_unaware trivial (Network.accept port deadline) id

theorem hangUp_unaware (id : Nat) (codec : Codec) : Unaware (W := W) Aside (Network.hangUp id codec) :=
  spent_unaware trivial (Network.hangUp id codec)

theorem unbind_unaware (port : Nat) : Unaware (W := W) Aside (Network.unbind port) :=
  spent_unaware trivial (Network.unbind port)

theorem dialAny_unaware (host : String) (port : Nat) (deadline : Option Nat) (cancelled : Bool)
    (last : Option IoError) (addresses : List Address) :
    Unaware (W := W) Aside (dialAny host port deadline cancelled last addresses) := by
  induction addresses generalizing last with
  | nil => exact fun r => ⟨rfl, .refl _ r⟩
  | cons address rest ih =>
    intro r
    simp only [dialAny]
    cases cancelled with
    | true => exact ⟨rfl, .refl _ r⟩
    | false =>
      obtain ⟨hends, hadds⟩ := dial_call_unaware address deadline r
      simp only [hends, Bool.false_eq_true, if_false]
      rcases hdial : Network.dial address deadline r with ⟨e | connection, r'⟩
      · rw [hdial] at hadds
        obtain ⟨hends', hadds'⟩ := ih (some e) r'
        exact ⟨hends', hadds.trans hadds'⟩
      · rw [hdial] at hadds
        exact ⟨rfl, hadds⟩

theorem dial_unaware (host : String) (port : Nat) (deadline : Option Nat) (cancelled : Bool) :
    Unaware (W := W) Aside (dial host port deadline cancelled) := by
  intro r
  obtain ⟨hends, hadds⟩ := resolve_unaware host port r
  unfold dial
  rw [hends]
  rcases hresolve : Network.resolve host port r with ⟨reason | addresses, r'⟩
  · rw [hresolve] at hadds
    exact ⟨rfl, hadds⟩
  · rw [hresolve] at hadds
    obtain ⟨hends', hadds'⟩ := dialAny_unaware host port deadline cancelled none addresses r'
    exact ⟨hends', hadds.trans hadds'⟩

theorem listen_unaware (port : Nat) (bound : Option Nat) : Unaware (W := W) Aside (listen port bound) := by
  intro r
  cases bound with
  | some port => exact ⟨rfl, .refl _ r⟩
  | none =>
    obtain ⟨hends, hadds⟩ := bind_unaware port r
    unfold listen
    simp only [hends]
    rcases hbind : Network.bind port r with ⟨e | port', r'⟩
    · rw [hbind] at hadds
      exact ⟨rfl, hadds⟩
    · rw [hbind] at hadds
      exact ⟨rfl, hadds⟩

theorem accept_unaware (port : Nat) (bound deadline : Option Nat) (cancelled : Bool) :
    Unaware (W := W) Aside (accept port bound deadline cancelled) := by
  intro r
  obtain ⟨hends, hadds⟩ := listen_unaware port bound r
  unfold accept
  rw [hends]
  rcases hlisten : listen port bound r with ⟨e | port', r'⟩
  · rw [hlisten] at hadds
    exact ⟨rfl, hadds⟩
  · rw [hlisten] at hadds
    cases cancelled with
    | true => exact ⟨rfl, hadds⟩
    | false =>
      obtain ⟨hends', hadds'⟩ := accept_call_unaware port' deadline r'
      refine ⟨?_, hadds.trans hadds'⟩
      simp only [Ending.quiet_pair, Ending.quiet_journal, hends', Bool.false_eq_true, if_false]

theorem connect_unaware (config : Config) (bound : Option Nat) (cancelled : Bool) :
    Unaware (W := W) Aside (connect config bound cancelled) := by
  intro r
  unfold connect
  cases config.host with
  | none => exact accept_unaware config.port bound config.connectTimeout cancelled r
  | some host =>
    obtain ⟨hends, hadds⟩ := dial_unaware host config.port config.connectTimeout cancelled r
    simp only [hends]
    exact ⟨rfl, hadds⟩

theorem establish_unaware (config : Config) (bound : Option Nat) (cancelled : Bool) :
    Unaware (W := W) Aside (establish config bound cancelled) := by
  intro r
  obtain ⟨hends, hadds⟩ := connect_unaware config bound cancelled r
  unfold establish
  rw [hends]
  rcases hconnect : connect config bound cancelled r with ⟨e | connection, bound', r'⟩
  · rw [hconnect] at hadds
    exact ⟨rfl, hadds⟩
  · rw [hconnect] at hadds
    simp only [Ending.quiet_pair, Ending.quiet_journal]
    by_cases hzero : config.readTimeout = some 0
    · obtain ⟨hends', hadds'⟩ := hangUp_unaware connection.id (connection.codec config) r'
      simp only [hzero, if_true, hends']
      exact ⟨rfl, hadds.trans hadds'⟩
    · simp only [hzero, if_false]
      exact ⟨trivial, hadds⟩

/-! ## Sessions -/

namespace Session

theorem establish_unaware (s : Session) : Unaware (W := W) Aside s.establish := by
  intro r
  obtain ⟨hends, hadds⟩ := VirtualCard.establish_unaware s.config s.bound s.cancelled r
  unfold establish
  rw [hends]
  rcases hestablish : VirtualCard.establish s.config s.bound s.cancelled r with ⟨e | link, bound, r'⟩
  · rw [hestablish] at hadds
    exact ⟨rfl, hadds⟩
  · rw [hestablish] at hadds
    simp only [Ending.quiet_pair, Ending.quiet_journal]
    rcases link.codec.writeCommand .powerOn with ⟨e | _, codec⟩
    · obtain ⟨hends', hadds'⟩ := hangUp_unaware link.id codec r'
      simp only [hends']
      exact ⟨rfl, hadds.trans hadds'⟩
    · exact ⟨rfl, hadds⟩

theorem open?_unaware (s : Session) : Unaware (W := W) Aside s.open? := by
  intro r
  unfold open?
  by_cases hclosed : s.closed = true
  · simp only [hclosed, if_true]
    exact ⟨rfl, .refl _ r⟩
  · simp only [hclosed, Bool.false_eq_true, if_false]
    cases s.link with
    | some link => exact ⟨rfl, .refl _ r⟩
    | none => exact s.establish_unaware r

theorem transmit_unaware (command : Command) (s : Session) : Unaware (W := W) Aside (s.transmit command) := by
  intro r
  obtain ⟨hends, hadds⟩ := s.open?_unaware r
  unfold transmit
  rw [hends]
  rcases hopen : s.open? r with ⟨e | link, s', r'⟩
  · rw [hopen] at hadds
    exact ⟨rfl, hadds⟩
  · rw [hopen] at hadds
    simp only [Ending.quiet_pair, Ending.quiet_journal]
    rcases exchange (Codec.writeData command.encode) link.codec with ⟨e | raw, codec⟩
    · exact ⟨rfl, hadds⟩
    · exact ⟨rfl, hadds⟩

theorem atr_unaware (s : Session) : Unaware (W := W) Aside s.atr := by
  intro r
  obtain ⟨hends, hadds⟩ := s.open?_unaware r
  unfold atr
  rw [hends]
  rcases hopen : s.open? r with ⟨e | link, s', r'⟩
  · rw [hopen] at hadds
    exact ⟨rfl, hadds⟩
  · rw [hopen] at hadds
    simp only [Ending.quiet_pair, Ending.quiet_journal]
    rcases exchange (Codec.writeCommand .getAtr) link.codec with ⟨e | raw, codec⟩
    · exact ⟨rfl, hadds⟩
    · exact ⟨rfl, hadds⟩

theorem giveBack_unaware (bound : Option Nat) (r : Journal W) :
    (match bound with
      | none => r.quiet
      | some port => Network.unbind port r.quiet) =
      (match bound with
        | none => r
        | some port => Network.unbind port r).quiet ∧
    Adds Aside r
      (match bound with
        | none => r
        | some port => Network.unbind port r) := by
  cases bound with
  | none => exact ⟨rfl, .refl _ r⟩
  | some port => exact unbind_unaware port r

theorem shut_unaware (s : Session) : Unaware (W := W) Aside s.shut := by
  intro r
  unfold shut
  by_cases hclosed : s.closed = true
  · simp only [hclosed, if_true]
    exact ⟨rfl, .refl _ r⟩
  · -- the connection ends first, and then the port is given back
    simp only [hclosed, Bool.false_eq_true, if_false]
    cases s.link with
    | none =>
      obtain ⟨hends, hadds⟩ := giveBack_unaware s.bound r
      exact ⟨congrArg _ hends, hadds⟩
    | some link =>
      obtain ⟨hends, hadds⟩ := hangUp_unaware link.id (link.codec.writeCommand .reset).2 r
      obtain ⟨hends', hadds'⟩ :=
        giveBack_unaware s.bound (Network.hangUp link.id (link.codec.writeCommand .reset).2 r)
      simp only [hends]
      exact ⟨congrArg _ hends', hadds.trans hadds'⟩

end Session

theorem oblivious_session : Oblivious W Session where
  transmit c s := (s.transmit_unaware c).weaken fun _ _ => trivial
  atr s := s.atr_unaware
  close s := fun r => ⟨congrArg _ (s.shut_unaware r).1, (s.shut_unaware r).2⟩
  protocol _ r := ⟨rfl, .refl _ r⟩
  beginExclusive _ r := ⟨rfl, .refl _ r⟩
  endExclusive _ r := ⟨rfl, .refl _ r⟩
  disconnect _ s := fun r => ⟨congrArg _ (s.shut_unaware r).1, (s.shut_unaware r).2⟩
  release s := fun r => ⟨congrArg Prod.snd (s.shut_unaware r).1, (s.shut_unaware r).2⟩

end CardLink.VirtualCard
