import CardLink.Proofs.Normalization.Acceptance

/-!
# Normal commands

A command is normal when no fix-up changes it. Normalizing gives a normal command, so a second channel with the same
options has nothing left to do. The wire does not bring every normal command back as it was: a zero Lc arrives as an
Le of 256. Where the Lc is fixed up, normalizing on the card side undoes that.
-/

namespace CardLink

namespace NormalizeOptions

variable {o : NormalizeOptions} {c : Command}

/-- A fix-up that fits the command was applied to it before. -/
structure Normal (o : NormalizeOptions) (c : Command) : Prop where
  lc : o.FixesLc c → c.data = some [] ∧ c.le = none
  ne : o.FixesNe c → c.le = some o.effectiveDefaultNe

theorem normalize_normal (o : NormalizeOptions) (c : Command) : o.Normal (o.normalize c) := by
  have hfits := o.normalize_fits c
  have hnc := o.normalize_nc c
  -- the number of data bytes is kept, so the fix-ups that fit are those that fitted the caller's command
  constructor
  · rintro ⟨hfix, hnone⟩
    apply hfits.emptied
    exact ⟨hfix, hnc ▸ hnone⟩
  · rintro ⟨hfix, hsome⟩
    have hne : o.FixesNe c := ⟨hfix, hnc ▸ hsome⟩
    exact (hfits.forced hne).2

/-- The normal commands are those that normalizing leaves alone. -/
theorem normal_iff : o.Normal c ↔ o.normalize c = c := by
  constructor
  · intro h
    by_cases hlc : o.FixesLc c
    · obtain ⟨hdata, hle⟩ := h.lc hlc
      rw [normalize_of_fixesLc hlc, ← hdata, ← hle]
    · by_cases hne : o.FixesNe c
      · rw [normalize_of_fixesNe hne, ← h.ne hne]
      · exact normalize_kept hlc hne
  · intro h
    have hnormal := o.normalize_normal c
    rwa [h] at hnormal

theorem not_spoils_of_fixLc (hfix : o.fixLc = true) (c : Command) : ¬ o.Spoils c := by
  rintro ⟨hoff, -⟩
  rw [hfix] at hoff
  cases hoff

/-- What the wire does to empty data is undone by fixing the Lc up. -/
theorem normalize_arriving (hfix : o.fixLc = true) (c : Command) : o.normalize c.arriving = o.normalize c := by
  unfold Command.arriving
  by_cases hempty : c.data = some []
  · have hnone : c.nc = 0 := by simp [Command.nc, Command.payload, hempty]
    rw [if_pos hempty, normalize_of_fixesLc ⟨hfix, rfl⟩, normalize_of_fixesLc ⟨hfix, hnone⟩]
  · rw [if_neg hempty]

/-- A command that fits is read back, and fixing the read command up gives what was sent. -/
theorem normalize_read (hfix : o.fixLc = true) (hfits : (o.normalize c).checkLengths = .ok ()) :
    ∃ read, Command.parse (o.normalize c).encode = .ok read ∧ o.normalize read = o.normalize c := by
  have hempty := normalize_le_of_empty (not_spoils_of_fixLc hfix c)
  refine ⟨(o.normalize c).arriving, Command.parse_encode ⟨hfits, hempty⟩, ?_⟩
  rw [normalize_arriving hfix]
  exact normal_iff.mp (o.normalize_normal c)

end NormalizeOptions

namespace Normalized

open NormalizeOptions
open VirtualCard.Service (answer)

variable {W κ : Type} [Host W] [CardChannel W κ]

/-- A card side that normalizes too hands the read command on, normalized. -/
theorem answer_handsOn {apdu : Bytes} {read : Command} (hread : Command.parse apdu = .ok read)
    (card : Normalized (Recorded κ)) (hfits : (card.options.normalize read).checkLengths = .ok ()) (w : W) :
    (answer apdu card w).2.1.inner.received = card.inner.received ++ [card.options.normalize read] := by
  have hreceived := (transmit_received (not_refuses_iff.mpr hfits) w).1
  have hcall : CardChannel.transmit read card w = card.transmit read w := rfl
  simp only [answer, hread, hcall]
  rcases htransmit : card.transmit read w with ⟨result, card', w'⟩
  rw [htransmit] at hreceived
  cases result with
  | ok response => exact hreceived
  | error e => exact hreceived

/-- Normalizing twice is normalizing once. Where the Lc is fixed up, so is normalizing on both sides of the wire: a
command that fits is read by the card side, has the same bytes after its normalization, and reaches the card behind
it as the reader side sent it. -/
theorem normalize_is_stable (o : NormalizeOptions) (c : Command) :
    o.normalize (o.normalize c) = o.normalize c ∧
    (o.fixLc = true → (o.normalize c).checkLengths = .ok () →
      (∃ read, Command.parse (o.normalize c).encode = .ok read ∧
        (o.normalize read).encode = (o.normalize c).encode) ∧
      ∀ (card : Normalized (Recorded κ)) (w : W), card.options = o →
        (answer (o.normalize c).encode card w).2.1.inner.received = card.inner.received ++ [o.normalize c]) := by
  constructor
  · exact normal_iff.mp (o.normalize_normal c)
  · intro hfix hfits
    obtain ⟨read, hread, hsame⟩ := normalize_read hfix hfits
    constructor
    · exact ⟨read, hread, congrArg Command.encode hsame⟩
    · rintro card w rfl
      have hfits' : (card.options.normalize read).checkLengths = .ok () := hsame ▸ hfits
      have hreceived := answer_handsOn hread card hfits' w
      rwa [hsame] at hreceived

/-- A request for 16 bytes loses its Le to a zero Lc, which is read as an Le of 256 and becomes a zero Lc again. -/
theorem normalize_is_stable_request :
    let request : Command := ⟨0x00, 0xB0, 0x00, 0x00, none, some 16⟩
    let card : Normalized (Recorded Scripted.Card) := { inner := ⟨{ replies := [.raw [0x90, 0x00]] }, []⟩, options := {} }
    NormalizeOptions.normalize {} request = ⟨0x00, 0xB0, 0x00, 0x00, some [], none⟩ ∧
      Command.parse [0x00, 0xB0, 0x00, 0x00, 0x00] = .ok ⟨0x00, 0xB0, 0x00, 0x00, none, some 256⟩ ∧
      (answer [0x00, 0xB0, 0x00, 0x00, 0x00] card ({} : Scripted.World)).2.1.inner.received =
        [⟨0x00, 0xB0, 0x00, 0x00, some [], none⟩] := by
  intro request card
  obtain ⟨-, hwire⟩ := normalize_is_stable (W := Scripted.World) (κ := Scripted.Card) {} request
  obtain ⟨-, hcard⟩ := hwire rfl rfl
  exact ⟨rfl, rfl, hcard card {} rfl⟩

end Normalized
end CardLink
