import CardLink.Apdu.Command
import CardLink.Apdu.Response

/-!
# What arrives of an APDU

A response is read back as it was written. A command is read back as it was written except for empty data:
its zero Lc stands alone after the header and is read as an Le of 256. The bytes are the same either way,
unless the empty data is followed by an Le; those bytes are no command.
-/

namespace CardLink

namespace Command

/-- The writer and the reader agree on the command. -/
structure Encodable (c : Command) : Prop where
  lengths : c.checkLengths = .ok ()
  notBoth : c.data = some [] → c.le = none

/-- The command that is read from the bytes of another one. -/
def arriving (c : Command) : Command :=
  if c.data = some [] then { c with data := none, le := some 256 } else c

theorem decodeLe_ofNat {n : Nat} (h0 : n ≠ 0) (h : n ≤ maxExpectedLength) :
    decodeLe (UInt8.ofNat n) = n := by
  unfold maxExpectedLength at h
  unfold decodeLe
  by_cases h256 : n = 256
  · subst h256
    rfl
  · have hn : (UInt8.ofNat n).toNat = n := by
      rw [UInt8.toNat_ofNat']
      omega
    have hz : UInt8.ofNat n ≠ 0 := by
      intro hz
      rw [hz] at hn
      exact h0 hn.symm
    rw [if_neg hz, hn]

theorem checkLengths_ok {c : Command} (h : c.checkLengths = .ok ()) :
    c.nc ≤ maxDataLength ∧ ∀ le, c.le = some le → le ≠ 0 ∧ le ≤ maxExpectedLength := by
  unfold checkLengths at h
  split at h
  · simp at h
  · next hnc =>
    refine ⟨Nat.le_of_not_gt hnc, ?_⟩
    intro le hle
    rw [hle] at h
    simp only at h
    split at h
    · simp at h
    · next hne =>
      constructor
      · intro h0
        exact hne (Or.inl h0)
      · omega

theorem length_encode_le {c : Command} (h : c.checkLengths = .ok ()) : c.encode.length ≤ 261 := by
  obtain ⟨hnc, -⟩ := checkLengths_ok h
  unfold nc payload maxDataLength at hnc
  have hle : (leField c.le).length ≤ 1 := by cases c.le <;> simp [leField]
  have hdata : (dataField c.data).length ≤ 256 := by
    cases hd : c.data with
    | none => simp [dataField]
    | some data =>
      simp only [hd, Option.getD_some] at hnc
      simp only [dataField, List.length_cons]
      omega
  simp only [encode, header, List.length_append, List.length_cons, List.length_nil]
  omega

theorem four_le_length_encode (c : Command) : 4 ≤ c.encode.length := by
  simp only [encode, header, List.length_append, List.length_cons, List.length_nil]
  omega

theorem encode_arriving {c : Command} (h : c.Encodable) : c.arriving.encode = c.encode := by
  unfold arriving
  split
  · next hd =>
    simp [encode, header, hd, h.notBoth hd, dataField, leField]
  · rfl

/-- The body of a command with data, read back. -/
theorem parseBody_data (bare : Command) {data : Bytes} {le : Option Nat} (total : Nat)
    (hbare : bare.le = none) (hne : data ≠ []) (hlen : data.length ≤ maxDataLength)
    (hle : ∀ n, le = some n → n ≠ 0 ∧ n ≤ maxExpectedLength) :
    parseBody bare total (dataField (some data) ++ leField le)
      = .ok { bare with data := some data, le } := by
  unfold maxDataLength at hlen
  have hpos : 0 < data.length := List.length_pos_iff.mpr hne
  have hlc : (UInt8.ofNat data.length).toNat = data.length := by
    rw [UInt8.toNat_ofNat']
    omega
  have hlc0 : UInt8.ofNat data.length ≠ 0 := by
    intro hz
    rw [hz] at hlc
    exact absurd hlc (Nat.ne_of_lt hpos)
  obtain ⟨b, bs, rfl⟩ := List.exists_cons_of_ne_nil hne
  cases le with
  | none =>
    simp only [dataField, leField, List.append_nil, parseBody, if_neg hlc0, hlc, if_true]
    rw [← hbare]
  | some n =>
    obtain ⟨h0, h256⟩ := hle n rfl
    simp only [dataField, leField, List.cons_append, parseBody, if_neg hlc0, hlc]
    simp [decodeLe_ofNat h0 h256]

theorem parse_encode {c : Command} (h : c.Encodable) : parse c.encode = .ok c.arriving := by
  obtain ⟨hnc, hle⟩ := checkLengths_ok h.lengths
  have hboth := h.notBoth
  obtain ⟨cla, ins, p1, p2, data, le⟩ := c
  simp only [encode, header, List.cons_append, List.nil_append, parse]
  cases data with
  | none =>
    cases le with
    | none => rfl
    | some n =>
      obtain ⟨h0, h256⟩ := hle n rfl
      simp [dataField, leField, parseBody, arriving, decodeLe_ofNat h0 h256]
  | some data =>
    by_cases hne : data = []
    · subst hne
      obtain rfl : le = none := hboth rfl
      rfl
    · have hbody := parseBody_data ⟨cla, ins, p1, p2, none, none⟩
        (cla :: ins :: p1 :: p2 :: (dataField (some data) ++ leField le)).length rfl hne hnc hle
      rw [hbody]
      simp [arriving, hne]

end Command

namespace Response

theorem parse_encode (r : Response) : parse r.encode = .ok r := by
  simp [parse, encode, StatusWord.bytes]

theorem encode_of_parse {bytes : Bytes} {r : Response} (h : parse bytes = .ok r) : r.encode = bytes := by
  unfold parse at h
  split at h
  · next sw2 sw1 before hrev =>
    cases h
    rw [← List.reverse_reverse bytes, hrev]
    simp [encode, StatusWord.bytes]
  · cases h

end Response
end CardLink
