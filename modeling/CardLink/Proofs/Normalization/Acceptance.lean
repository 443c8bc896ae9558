import CardLink.Proofs.Normalization.Received
import CardLink.VirtualCard.Service

/-!
# Which commands are handed on

A normalizing channel refuses a command for one of three reasons, each told by its error, and a refusal leaves
no trace. Any other command is handed on with at most one of the two fix-ups. What is handed on can be read back
from its bytes, except for empty data in front of an Le, which only a channel that does not fix the Lc up hands on.
-/

namespace CardLink

/-! ## Refusals -/

namespace Command

theorem hasData_iff {c : Command} : c.hasData = true ↔ 0 < c.nc := by
  simp [hasData, Nat.pos_iff_ne_zero]

theorem checkLengths_eq_error_iff {c : Command} {e : CommandError} :
    c.checkLengths = .error e ↔
      (255 < c.nc ∧ e = .dataTooLong c.nc 255) ∨
      (c.nc ≤ 255 ∧ ∃ le, c.le = some le ∧ ¬ (1 ≤ le ∧ le ≤ 256) ∧ e = .invalidExpectedLength le) := by
  unfold checkLengths maxDataLength maxExpectedLength
  by_cases hlong : c.nc > 255
  · rw [if_pos hlong, Except.error.injEq]
    constructor
    · rintro rfl
      exact Or.inl ⟨hlong, rfl⟩
    · rintro (⟨-, rfl⟩ | ⟨hshort, -⟩)
      · rfl
      · omega
  · rw [if_neg hlong]
    cases hle : c.le with
    | none => simp [hlong]
    | some le =>
      simp only
      by_cases hout : le = 0 ∨ le > 256
      · rw [if_pos hout, Except.error.injEq]
        constructor
        · rintro rfl
          exact Or.inr ⟨by omega, le, rfl, by omega, rfl⟩
        · rintro (⟨hlong', -⟩ | ⟨-, le', hle', -, rfl⟩)
          · omega
          · cases hle'
            rfl
      · rw [if_neg hout]
        constructor
        · intro h
          cases h
        · rintro (⟨hlong', -⟩ | ⟨-, le', hle', hout', -⟩)
          · omega
          · cases hle'
            omega

end Command

namespace NormalizeOptions

variable {o : NormalizeOptions} {c : Command}

/-- The command gets an explicit zero Lc. -/
def FixesLc (o : NormalizeOptions) (c : Command) : Prop := o.fixLc = true ∧ c.nc = 0

/-- The command gets the default Le. -/
def FixesNe (o : NormalizeOptions) (c : Command) : Prop := o.effectiveFixNe = true ∧ 0 < c.nc

/-- The command does not fit, and why: its data are too long, or the default Le that it gets or the Le that it
keeps is out of range. -/
inductive Refuses (o : NormalizeOptions) (c : Command) : CommandError → Prop where
  | long (h : 255 < c.nc) : Refuses o c (.dataTooLong c.nc 255)
  | forced (hshort : c.nc ≤ 255) (hne : o.FixesNe c)
    (hout : ¬ (1 ≤ o.effectiveDefaultNe ∧ o.effectiveDefaultNe ≤ 256)) :
    Refuses o c (.invalidExpectedLength o.effectiveDefaultNe)
  | kept (hshort : c.nc ≤ 255) (hlc : ¬ o.FixesLc c) (hne : ¬ o.FixesNe c) {le : Nat} (hle : c.le = some le)
    (hout : ¬ (1 ≤ le ∧ le ≤ 256)) : Refuses o c (.invalidExpectedLength le)

/-- What a command becomes that is handed on. -/
structure Fits (o : NormalizeOptions) (c sent : Command) : Prop where
  header : sent.header = c.header
  payload : sent.payload = c.payload
  emptied : o.FixesLc c → sent.data = some [] ∧ sent.le = none
  forced : o.FixesNe c → sent.data = c.data ∧ sent.le = some o.effectiveDefaultNe
  kept : ¬ o.FixesLc c → ¬ o.FixesNe c → sent = c

theorem not_fixesNe_of_fixesLc (h : o.FixesLc c) : ¬ o.FixesNe c := by
  rintro ⟨-, hdata⟩
  exact Nat.ne_of_gt hdata h.2

theorem normalize_of_fixesLc (h : o.FixesLc c) : o.normalize c = { c with data := some [], le := none } := by
  have hdata : ¬ c.hasData = true := by
    rw [Command.hasData_iff, h.2]
    exact Nat.lt_irrefl 0
  unfold normalize
  rw [if_neg hdata, if_pos h.1]

theorem normalize_of_fixesNe (h : o.FixesNe c) :
    o.normalize c = { c with le := some o.effectiveDefaultNe } := by
  unfold normalize
  rw [if_pos (Command.hasData_iff.mpr h.2), if_pos h.1]

theorem normalize_kept (hlc : ¬ o.FixesLc c) (hne : ¬ o.FixesNe c) : o.normalize c = c := by
  unfold normalize
  by_cases hdata : c.hasData = true
  · have hpos := Command.hasData_iff.mp hdata
    rw [if_pos hdata, if_neg fun hfix => hne ⟨hfix, hpos⟩]
  · have hzero : c.nc = 0 := by
      rw [Command.hasData_iff] at hdata
      omega
    rw [if_neg hdata, if_neg fun hfix => hlc ⟨hfix, hzero⟩]

theorem normalize_fits (o : NormalizeOptions) (c : Command) : o.Fits c (o.normalize c) := by
  by_cases hlc : o.FixesLc c
  · have hne := not_fixesNe_of_fixesLc hlc
    have hnone : c.payload = [] := List.length_eq_zero_iff.mp hlc.2
    rw [normalize_of_fixesLc hlc]
    exact ⟨rfl, hnone.symm, fun _ => ⟨rfl, rfl⟩, fun h => absurd h hne, fun h => absurd hlc h⟩
  · by_cases hne : o.FixesNe c
    · rw [normalize_of_fixesNe hne]
      exact ⟨rfl, rfl, fun h => absurd h hlc, fun _ => ⟨rfl, rfl⟩, fun _ h => absurd hne h⟩
    · rw [normalize_kept hlc hne]
      exact ⟨rfl, rfl, fun h => absurd h hlc, fun h => absurd h hne, fun _ _ => rfl⟩

theorem normalize_nc (o : NormalizeOptions) (c : Command) : (o.normalize c).nc = c.nc :=
  congrArg List.length (o.normalize_fits c).payload

/-- The check refuses for the three reasons only. -/
theorem refuses_iff {e : CommandError} : o.Refuses c e ↔ (o.normalize c).checkLengths = .error e := by
  rw [Command.checkLengths_eq_error_iff, normalize_nc]
  constructor
  · rintro (hlong | ⟨hshort, hne, hout⟩ | ⟨hshort, hlc, hne, hle, hout⟩)
    · exact Or.inl ⟨hlong, rfl⟩
    · exact Or.inr ⟨hshort, _, ((o.normalize_fits c).forced hne).2, hout, rfl⟩
    · rw [normalize_kept hlc hne]
      exact Or.inr ⟨hshort, _, hle, hout, rfl⟩
  · rintro (⟨hlong, rfl⟩ | ⟨hshort, le, hle, hout, rfl⟩)
    · exact .long hlong
    · by_cases hlc : o.FixesLc c
      · rw [((o.normalize_fits c).emptied hlc).2] at hle
        cases hle
      · by_cases hne : o.FixesNe c
        · rw [((o.normalize_fits c).forced hne).2] at hle
          cases hle
          exact .forced hshort hne hout
        · rw [normalize_kept hlc hne] at hle
          exact .kept hshort hlc hne hle hout

theorem not_refuses_iff : (¬ ∃ e, o.Refuses c e) ↔ (o.normalize c).checkLengths = .ok () := by
  simp only [refuses_iff]
  cases (o.normalize c).checkLengths with
  | error e => simp
  | ok _ => simp

end NormalizeOptions

namespace Normalized

variable {W κ : Type} [Host W] [CardChannel W κ] {n : Normalized (Recorded κ)} {c sent : Command} {w : W}

theorem transmit_refused {e : CommandError} (h : n.options.Refuses c e) (w : W) :
    n.transmit c w = (.error (.command e), n, w) := by
  have hcheck : (n.normalize c).checkLengths = .error e := NormalizeOptions.refuses_iff.mp h
  unfold transmit
  rw [hcheck]

theorem transmit_fitting (h : ¬ ∃ e, n.options.Refuses c e) (w : W) :
    n.transmit c w = n.forward (n.normalize c) w := by
  have hcheck : (n.normalize c).checkLengths = .ok () := NormalizeOptions.not_refuses_iff.mp h
  unfold transmit
  rw [hcheck]

theorem transmit_received (h : ¬ ∃ e, n.options.Refuses c e) (w : W) :
    (n.transmit c w).2.1.inner.received = n.inner.received ++ [n.normalize c] ∧
      (n.transmit c w).2.1.lastCommand = some (n.normalize c) := by
  rw [transmit_fitting h]
  exact ⟨rfl, rfl⟩

/-- A command is handed on, and once, unless it is refused. -/
theorem received_iff :
    (n.transmit c w).2.1.inner.received = n.inner.received ++ [sent] ↔
      (¬ ∃ e, n.options.Refuses c e) ∧ n.normalize c = sent := by
  by_cases hrefused : ∃ e, n.options.Refuses c e
  · obtain ⟨e, he⟩ := hrefused
    rw [transmit_refused he]
    simp [show ∃ e, n.options.Refuses c e from ⟨e, he⟩]
  · rw [(transmit_received hrefused w).1]
    simp [hrefused]

/-- What the inner channel is given, and the channel unchanged by a refusal, tell whether a command fits. A refusal
has its reason as the error; a command that is handed on keeps its header and data, has at most one fix-up and is
the caller's but for that. -/
theorem transmit_hands_on_what_fits (n : Normalized (Recorded κ)) (c : Command) (w : W) :
    n.unrecorded.transmit c w = (n.transmit c w).lift unrecorded ∧
    (∀ e, n.options.Refuses c e → n.transmit c w = (.error (.command e), n, w)) ∧
    ((n.transmit c w).2.1.inner.received = n.inner.received ↔ ∃ e, n.options.Refuses c e) ∧
    ((¬ ∃ e, n.options.Refuses c e) → ∃ sent, n.options.Fits c sent ∧
      (n.transmit c w).2.1.inner.received = n.inner.received ++ [sent] ∧
      (n.transmit c w).2.1.lastCommand = some sent) ∧
    ¬ (n.options.FixesLc c ∧ n.options.FixesNe c) := by
  refine ⟨transmit_unrecorded c n w, fun e he => transmit_refused he w, ?_, ?_, ?_⟩
  · constructor
    · intro hsame
      by_cases hrefused : ∃ e, n.options.Refuses c e
      · exact hrefused
      · rw [(transmit_received hrefused w).1] at hsame
        simp at hsame
    · rintro ⟨e, he⟩
      rw [transmit_refused he]
  · intro hfits
    exact ⟨n.normalize c, n.options.normalize_fits c, transmit_received hfits w⟩
  · rintro ⟨hlc, hne⟩
    exact NormalizeOptions.not_fixesNe_of_fixesLc hlc hne

/-- Data of 256 bytes and a default Le of 300 are refused. An Le of zero is not, if it gives way to a zero Lc. -/
theorem transmit_hands_on_what_fits_limits :
    let card : Recorded Scripted.Card := ⟨{ replies := [.raw [0x90, 0x00]] }, []⟩
    let plain : Normalized (Recorded Scripted.Card) := { inner := card, options := {} }
    let forcing := { plain with options := { fixNe := some true, defaultNe := some 300 } }
    let long : Command := ⟨0x00, 0xD6, 0x00, 0x00, some (List.replicate 256 0), none⟩
    plain.transmit long ({} : Scripted.World) = (.error (.command (.dataTooLong 256 255)), plain, {}) ∧
      forcing.transmit (.selectAid [0xA0]) ({} : Scripted.World) =
        (.error (.command (.invalidExpectedLength 300)), forcing, {}) ∧
      ∃ sent, (plain.transmit ⟨0x00, 0xB0, 0x00, 0x00, none, some 0⟩ ({} : Scripted.World)).2.1.inner.received = [sent] ∧
        sent.data = some [] ∧ sent.le = none := by
  intro card plain forcing long
  refine ⟨?_, ?_, ?_⟩
  · obtain ⟨-, hrefused, -⟩ := transmit_hands_on_what_fits plain long ({} : Scripted.World)
    have hnc : long.nc = 256 := by
      simp only [long, Command.nc, Command.payload, Option.getD_some, List.length_replicate]
    have hlong := NormalizeOptions.Refuses.long (o := plain.options) (c := long) (by omega)
    rw [hnc] at hlong
    exact hrefused _ hlong
  · obtain ⟨-, hrefused, -⟩ := transmit_hands_on_what_fits forcing (.selectAid [0xA0]) ({} : Scripted.World)
    exact hrefused _ (.forced (by decide) ⟨rfl, by decide⟩ (by decide))
  · obtain ⟨-, -, -, hfits, -⟩ :=
      transmit_hands_on_what_fits plain ⟨0x00, 0xB0, 0x00, 0x00, none, some 0⟩ ({} : Scripted.World)
    obtain ⟨sent, hsent, hreceived, -⟩ := hfits (NormalizeOptions.not_refuses_iff.mpr rfl)
    exact ⟨sent, hreceived, hsent.emptied ⟨rfl, rfl⟩⟩

end Normalized

/-! ## What is read back -/

namespace NormalizeOptions

variable {o : NormalizeOptions} {c : Command}

/-- The command has empty data in front of an Le, and keeps both. -/
def Spoils (o : NormalizeOptions) (c : Command) : Prop := o.fixLc = false ∧ c.data = some [] ∧ c.le ≠ none

theorem normalize_spoilt (h : o.Spoils c) : o.normalize c = c := by
  obtain ⟨hlc, hdata, -⟩ := h
  have hnone : ¬ 0 < c.nc := by simp [Command.nc, Command.payload, hdata]
  refine normalize_kept ?_ fun hne => hnone hne.2
  rintro ⟨hfix, -⟩
  rw [hlc] at hfix
  cases hfix

theorem normalize_le_of_empty (h : ¬ o.Spoils c) (hempty : (o.normalize c).data = some []) :
    (o.normalize c).le = none := by
  by_cases hlc : o.FixesLc c
  · exact ((o.normalize_fits c).emptied hlc).2
  · have hnone : (o.normalize c).nc = 0 := by simp [Command.nc, Command.payload, hempty]
    rw [normalize_nc] at hnone
    have hne : ¬ o.FixesNe c := fun hne => Nat.ne_of_gt hne.2 hnone
    rw [normalize_kept hlc hne] at hempty ⊢
    have hoff : o.fixLc = false := Bool.eq_false_iff.mpr fun hfix => hlc ⟨hfix, hnone⟩
    cases hle : c.le with
    | none => rfl
    | some le => exact absurd ⟨hoff, hempty, by simp [hle]⟩ h

end NormalizeOptions

namespace Command

theorem arriving_header (c : Command) : c.arriving.header = c.header := by
  unfold arriving
  split <;> rfl

theorem arriving_payload (c : Command) : c.arriving.payload = c.payload := by
  unfold arriving
  split
  · next hempty => simp [payload, hempty]
  · rfl

end Command

namespace Normalized

open VirtualCard.Service (answer)

variable {W V κ δ : Type} [Host W] [CardChannel W κ] [CardChannel V δ]

omit [Host W] [CardChannel W κ] in
theorem answer_received {apdu : Bytes} {read : Command} (h : Command.parse apdu = .ok read) (card : Recorded δ)
    (v : V) : (answer apdu card v).2.1.received = card.received ++ [read] := by
  have hreceived : (CardChannel.transmit read card v).2.1.received = card.received ++ [read] := rfl
  simp only [answer, h]
  rcases htransmit : CardChannel.transmit read card v with ⟨result, card', v'⟩
  rw [htransmit] at hreceived
  cases result with
  | ok response => exact hreceived
  | error e => exact hreceived

/-- A channel hands on only what the card side reads with the caller's header and data, unless it spoils the
command: the bytes of empty data in front of an Le are no command, and a card that is served answers them itself. -/
theorem handed_on_is_readable {n : Normalized (Recorded κ)} {c sent : Command} {w : W}
    (hsent : (n.transmit c w).2.1.inner.received = n.inner.received ++ [sent]) :
    ((∃ read, Command.parse sent.encode = .ok read ∧ read.header = c.header ∧ read.payload = c.payload) ↔
      ¬ n.options.Spoils c) ∧
    (n.options.Spoils c → Command.parse sent.encode = .error (.invalidLength 6)) ∧
    ∀ (card : Recorded δ) (v : V),
      (¬ n.options.Spoils c → ∃ read, (answer sent.encode card v).2.1.received = card.received ++ [read] ∧
        read.header = c.header ∧ read.payload = c.payload) ∧
      (n.options.Spoils c → answer sent.encode card v = (.statusOnly .noPreciseDiagnosis, card, v)) := by
  obtain ⟨hfits, rfl⟩ := received_iff.mp hsent
  have hkept := n.options.normalize_fits c
  have hlengths : (n.normalize c).checkLengths = .ok () := NormalizeOptions.not_refuses_iff.mp hfits
  have hreads : ¬ n.options.Spoils c → Command.parse (n.normalize c).encode = .ok (n.normalize c).arriving :=
    fun hsound => Command.parse_encode ⟨hlengths, NormalizeOptions.normalize_le_of_empty hsound⟩
  have hheader : (n.normalize c).arriving.header = c.header := (Command.arriving_header _).trans hkept.header
  have hpayload : (n.normalize c).arriving.payload = c.payload := (Command.arriving_payload _).trans hkept.payload
  have hspoilt : n.options.Spoils c → Command.parse (n.normalize c).encode = .error (.invalidLength 6) := by
    intro h
    have hsame : n.normalize c = c := NormalizeOptions.normalize_spoilt h
    obtain ⟨-, hdata, hle⟩ := h
    obtain ⟨le, hle⟩ := Option.ne_none_iff_exists'.mp hle
    have hsix : c.encode.length = 6 := by simp [Command.length_encode, Command.encodedLength, hdata, hle]
    rw [hsame, Command.parse_unsized (Command.not_sized_of_empty hdata hle), hsix]
  refine ⟨?_, hspoilt, ?_⟩
  · constructor
    · rintro ⟨read, hread, -⟩ h
      cases (hspoilt h).symm.trans hread
    · intro hsound
      exact ⟨_, hreads hsound, hheader, hpayload⟩
  · intro card v
    constructor
    · intro hsound
      exact ⟨_, answer_received (hreads hsound) card v, hheader, hpayload⟩
    · intro h
      simp only [answer, hspoilt h]

open Scripted

/-- A channel that leaves the Lc alone. -/
def plainChannel : Normalized (Recorded Card) :=
  { inner := ⟨{ replies := [.raw [0x90, 0x00]] }, []⟩, options := { fixLc := false } }

/-- Empty data in front of an Le is handed on, as six bytes that are no command. -/
theorem spoilt_command_is_handed_on :
    ¬ ∀ c sent : Command, (plainChannel.transmit c ({} : World)).2.1.inner.received = [sent] →
      ∃ read, Command.parse sent.encode = .ok read ∧ read.header = c.header ∧ read.payload = c.payload := by
  intro h
  obtain ⟨read, hread, -⟩ := h ⟨0x00, 0xB0, 0x00, 0x00, some [], some 16⟩ _ rfl
  cases hread

theorem handed_on_is_readable_select :
    (plainChannel.transmit (.selectAid [0xA0]) ({} : World)).2.1.inner.received = [.selectAid [0xA0]] ∧
      ∃ read, (answer (Command.selectAid [0xA0]).encode plainChannel.inner ({} : World)).2.1.received = [read] ∧
        read.header = [0x00, 0xA4, 0x04, 0x00] ∧ read.payload = [0xA0] := by
  have hsent : (plainChannel.transmit (.selectAid [0xA0]) ({} : World)).2.1.inner.received = [.selectAid [0xA0]] := rfl
  obtain ⟨-, -, hcard⟩ := handed_on_is_readable (V := World) (δ := Card) hsent
  have hsound : ¬ plainChannel.options.Spoils (.selectAid [0xA0]) := fun h => h.2.2 rfl
  exact ⟨hsent, (hcard plainChannel.inner {}).1 hsound⟩

end Normalized
end CardLink
