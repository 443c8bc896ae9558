import CardLink.Proofs.Apdu.RoundTrip

/-!
# Which bytes are a command

The reader looks at sizes only: after the header it wants nothing, an Le alone, or an Lc that is not zero
with that many data bytes and perhaps an Le after them. On those byte strings it inverts the writer. The
writer's Lc is the data length cut to one byte; where something was cut off, it never fits the data that
follows it, so nothing is misread.
-/

namespace CardLink.Command

/-- The sizes a command can have, given the byte after its header. -/
def Sized (bytes : Bytes) : Prop :=
  bytes.length = 4 ∨ bytes.length = 5 ∨
    ∃ lc, bytes[4]? = some lc ∧ 1 ≤ lc.toNat ∧
      (bytes.length = 5 + lc.toNat ∨ bytes.length = 6 + lc.toNat)

/-- The commands that the reader gives. -/
structure Canonical (c : Command) : Prop where
  lengths : c.checkLengths = .ok ()
  data : c.data ≠ some []

/-! ## Byte strings of a command's size -/

theorem decodeLe_bounds (b : UInt8) : decodeLe b ≠ 0 ∧ decodeLe b ≤ maxExpectedLength := by
  have hb := b.toNat_lt
  unfold decodeLe maxExpectedLength
  by_cases h : b = 0
  · simp [h]
  · have h0 : b.toNat ≠ 0 := fun h0 => h (UInt8.toNat_inj.mp h0)
    simp only [h, if_false]
    omega

theorem ofNat_decodeLe (b : UInt8) : UInt8.ofNat (decodeLe b) = b := by
  unfold decodeLe
  by_cases h : b = 0
  · subst h
    rfl
  · simp [h]

theorem checkLengths_eq_ok {c : Command} (hnc : c.nc ≤ maxDataLength)
    (hle : ∀ le, c.le = some le → le ≠ 0 ∧ le ≤ maxExpectedLength) : c.checkLengths = .ok () := by
  unfold checkLengths
  rw [if_neg (Nat.not_lt.mpr hnc)]
  cases h : c.le with
  | none => rfl
  | some le =>
    obtain ⟨h0, hmax⟩ := hle le h
    simp only
    rw [if_neg (by omega)]

theorem le_bounds_of_byte {le? : Option UInt8} (le : Nat) (h : le?.map decodeLe = some le) :
    le ≠ 0 ∧ le ≤ maxExpectedLength := by
  obtain ⟨b, -, rfl⟩ := Option.map_eq_some_iff.mp h
  exact decodeLe_bounds b

/-- A command without data is read from its header and at most an Le. -/
theorem exists_canonical_of_le (cla ins p1 p2 : UInt8) (le? : Option UInt8) :
    ∃ c : Command, c.Canonical ∧ c.encode = [cla, ins, p1, p2] ++ le?.toList := by
  refine ⟨⟨cla, ins, p1, p2, none, le?.map decodeLe⟩, ⟨?_, by simp⟩, ?_⟩
  · exact checkLengths_eq_ok (Nat.zero_le _) le_bounds_of_byte
  · cases le? with
    | none => rfl
    | some b => simp [encode, header, dataField, leField, ofNat_decodeLe]

theorem exists_canonical_of_data (cla ins p1 p2 : UInt8) {lc : UInt8} {data : Bytes}
    (hlc : 1 ≤ lc.toNat) (hlen : data.length = lc.toNat) (le? : Option UInt8) :
    ∃ c : Command, c.Canonical ∧
      c.encode = [cla, ins, p1, p2] ++ lc :: data ++ le?.toList := by
  have hlt := lc.toNat_lt
  have hwritten : UInt8.ofNat data.length = lc := by
    rw [hlen, UInt8.ofNat_toNat]
  refine ⟨⟨cla, ins, p1, p2, some data, le?.map decodeLe⟩, ⟨?_, ?_⟩, ?_⟩
  · apply checkLengths_eq_ok _ le_bounds_of_byte
    simp only [nc, payload, Option.getD_some, maxDataLength]
    omega
  · intro hnil
    cases hnil
    simp only [List.length_nil] at hlen
    omega
  · cases le? with
    | none => simp [encode, header, dataField, leField, hwritten]
    | some b => simp [encode, header, dataField, leField, hwritten, ofNat_decodeLe]

theorem exists_canonical {bytes : Bytes} (h : Sized bytes) :
    ∃ c : Command, c.Canonical ∧ c.encode = bytes := by
  match bytes with
  | [] | [_] | [_, _] | [_, _, _] => simp [Sized] at h
  | [cla, ins, p1, p2] => exact exists_canonical_of_le cla ins p1 p2 none
  | [cla, ins, p1, p2, le] => exact exists_canonical_of_le cla ins p1 p2 (some le)
  | cla :: ins :: p1 :: p2 :: lc :: b :: rest =>
    simp only [Sized, List.length_cons, List.getElem?_cons_succ, List.getElem?_cons_zero,
      Option.some.injEq, exists_eq_left'] at h
    rcases h with h | h | ⟨hlc, hexact | hone⟩
    · omega
    · omega
    · have hdata : (b :: rest).length = lc.toNat := by
        simp only [List.length_cons]
        omega
      simpa using exists_canonical_of_data cla ins p1 p2 hlc hdata none
    · obtain ⟨data, le, hsplit⟩ : ∃ data le, b :: rest = data ++ [le] :=
        ⟨_, _, (List.dropLast_concat_getLast (List.cons_ne_nil b rest)).symm⟩
      have hdata : data.length = lc.toNat := by
        have := congrArg List.length hsplit
        simp only [List.length_cons, List.length_append, List.length_nil] at this
        omega
      obtain ⟨c, hc, hencode⟩ := exists_canonical_of_data cla ins p1 p2 hlc hdata (some le)
      refine ⟨c, hc, ?_⟩
      rw [hencode, hsplit]
      simp

/-! ## Reading -/

theorem parse_unsized {bytes : Bytes} (h : ¬ Sized bytes) :
    parse bytes = .error (.invalidLength bytes.length) := by
  match bytes with
  | [] | [_] | [_, _] | [_, _, _] => rfl
  | [_, _, _, _] => exact absurd (Or.inl rfl) h
  | [_, _, _, _, _] => exact absurd (Or.inr (Or.inl rfl)) h
  | cla :: ins :: p1 :: p2 :: lc :: b :: rest =>
    simp only [Sized, List.length_cons, List.getElem?_cons_succ, List.getElem?_cons_zero,
      Option.some.injEq, exists_eq_left', not_or, not_and] at h
    obtain ⟨-, -, hsize⟩ := h
    simp only [parse, parseBody]
    by_cases hlc : lc = 0
    · rw [if_pos hlc]
    · have hpos : 1 ≤ lc.toNat := Nat.one_le_iff_ne_zero.mpr fun h0 => hlc (UInt8.toNat_inj.mp h0)
      obtain ⟨hexact, hone⟩ := hsize hpos
      rw [if_neg hlc, if_neg (by simp only [List.length_cons]; omega),
        if_neg (by simp only [List.length_cons]; omega)]

theorem Canonical.parse_encode {c : Command} (h : c.Canonical) : parse c.encode = .ok c := by
  have hparse := Command.parse_encode ⟨h.lengths, fun hnil => absurd hnil h.data⟩
  rwa [arriving, if_neg h.data] at hparse

theorem parse_eq_ok_iff {bytes : Bytes} {c : Command} :
    parse bytes = .ok c ↔ c.Canonical ∧ c.encode = bytes := by
  constructor
  · intro h
    by_cases hsized : Sized bytes
    · obtain ⟨c', hc', rfl⟩ := exists_canonical hsized
      cases hc'.parse_encode.symm.trans h
      exact ⟨hc', rfl⟩
    · cases (parse_unsized hsized).symm.trans h
  · rintro ⟨hc, rfl⟩
    exact hc.parse_encode

theorem exists_parse_iff {bytes : Bytes} : (∃ c, parse bytes = .ok c) ↔ Sized bytes := by
  constructor
  · rintro ⟨c, h⟩
    by_cases hsized : Sized bytes
    · exact hsized
    · cases (parse_unsized hsized).symm.trans h
  · intro h
    obtain ⟨c, hc⟩ := exists_canonical h
    exact ⟨c, parse_eq_ok_iff.mpr hc⟩

/-! ## Commands that are not read back -/

theorem length_encode (c : Command) : c.encode.length = c.encodedLength := by
  simp only [encode, encodedLength, header, List.length_append, List.length_cons, List.length_nil]
  cases c.data <;> cases c.le <;> simp [dataField, leField] <;> omega

theorem encode_lc {c : Command} {data : Bytes} (h : c.data = some data) :
    c.encode[4]? = some (UInt8.ofNat data.length) := by
  simp [encode, header, h, dataField]

theorem not_sized_of_long {c : Command} (h : maxDataLength < c.nc) : ¬ Sized c.encode := by
  cases hdata : c.data with
  | none => simp [nc, payload, hdata] at h
  | some data =>
    simp only [nc, payload, hdata, Option.getD_some, maxDataLength] at h
    have hlen : data.length + 5 ≤ c.encode.length ∧ c.encode.length ≤ data.length + 6 := by
      simp only [length_encode, encodedLength, hdata]
      cases c.le <;> simp <;> omega
    rintro (hfour | hfive | ⟨lc, hlc, -, hsize⟩)
    · omega
    · omega
    · cases (encode_lc hdata).symm.trans hlc
      rw [UInt8.toNat_ofNat'] at hsize
      omega

theorem not_sized_of_empty {c : Command} {le : Nat} (hdata : c.data = some []) (hle : c.le = some le) :
    ¬ Sized c.encode := by
  have hlen : c.encode.length = 6 := by simp [length_encode, encodedLength, hdata, hle]
  rintro (hfour | hfive | ⟨lc, hlc, hpos, -⟩)
  · omega
  · omega
  · cases (encode_lc hdata).symm.trans hlc
    exact absurd hpos (by decide)

/-- Reading succeeds exactly on byte strings of the right size and gives the one canonical command they
are the encoding of. Empty data loses its field or spoils the command, and too much data always does. -/
theorem parse_inverts_encode (bytes : Bytes) (c : Command) :
    ((∃ c', parse bytes = .ok c') ↔ Sized bytes) ∧
    (¬ Sized bytes → parse bytes = .error (.invalidLength bytes.length)) ∧
    (parse bytes = .ok c → c.encode = bytes ∧ c.checkLengths = .ok () ∧ c.data ≠ some []) ∧
    (c.checkLengths = .ok () → c.data ≠ some [] → parse c.encode = .ok c) ∧
    (c.data = some [] → c.le = none → parse c.encode = .ok { c with data := none, le := some 256 }) ∧
    (c.data = some [] → c.le ≠ none → parse c.encode = .error (.invalidLength c.encode.length)) ∧
    (maxDataLength < c.nc → parse c.encode = .error (.invalidLength c.encode.length)) ∧
    c.encodedLength = c.encode.length := by
  refine ⟨exists_parse_iff, parse_unsized, ?_, ?_, ?_, ?_, ?_, (length_encode c).symm⟩
  · intro h
    obtain ⟨hc, hencode⟩ := parse_eq_ok_iff.mp h
    exact ⟨hencode, hc.lengths, hc.data⟩
  · intro hlengths hdata
    exact Canonical.parse_encode ⟨hlengths, hdata⟩
  · intro hdata hle
    have hlengths : c.checkLengths = .ok () := by
      simp [checkLengths, nc, payload, hdata, hle]
    have hparse := parse_encode ⟨hlengths, fun _ => hle⟩
    rwa [arriving, if_pos hdata] at hparse
  · intro hdata hle
    obtain ⟨le, hle⟩ := Option.ne_none_iff_exists'.mp hle
    exact parse_unsized (not_sized_of_empty hdata hle)
  · intro hlong
    exact parse_unsized (not_sized_of_long hlong)

def updateWith (data : Bytes) (le : Option Nat) : Command := ⟨0x00, 0xD6, 0x00, 0x00, some data, le⟩

/-- The last command has 257 data bytes, which are written with an Lc of one. -/
theorem parse_inverts_encode_update :
    (Sized [0x00, 0xD6, 0x00, 0x00, 0x02, 0x3F, 0x00, 0x00] ∧
      parse [0x00, 0xD6, 0x00, 0x00, 0x02, 0x3F, 0x00, 0x00] = .ok (updateWith [0x3F, 0x00] (some 256)) ∧
      (updateWith [0x3F, 0x00] (some 256)).encode = [0x00, 0xD6, 0x00, 0x00, 0x02, 0x3F, 0x00, 0x00]) ∧
    (¬ Sized [0x00, 0xD6, 0x00, 0x00, 0x02, 0x3F] ∧
      parse [0x00, 0xD6, 0x00, 0x00, 0x02, 0x3F] = .error (.invalidLength 6)) ∧
    parse (updateWith [] none).encode = .ok ⟨0x00, 0xD6, 0x00, 0x00, none, some 256⟩ ∧
    parse (updateWith [] (some 0x10)).encode = .error (.invalidLength 6) ∧
    (updateWith (List.replicate 257 0x3F) (some 0)).encode[4]? = some 1 ∧
    parse (updateWith (List.replicate 257 0x3F) (some 0)).encode = .error (.invalidLength 263) := by
  refine ⟨?_, ?_, ?_, ?_, ?_, ?_⟩
  · obtain ⟨hsized, -, hread, hback, -⟩ := parse_inverts_encode
      [0x00, 0xD6, 0x00, 0x00, 0x02, 0x3F, 0x00, 0x00] (updateWith [0x3F, 0x00] (some 256))
    have hparse := hback rfl (by decide)
    exact ⟨hsized.mp ⟨_, hparse⟩, hparse, (hread hparse).1⟩
  · have hsized : ¬ Sized [0x00, 0xD6, 0x00, 0x00, 0x02, 0x3F] := by simp [Sized]
    obtain ⟨-, hunsized, -⟩ := parse_inverts_encode [0x00, 0xD6, 0x00, 0x00, 0x02, 0x3F] (updateWith [] none)
    exact ⟨hsized, hunsized hsized⟩
  · obtain ⟨-, -, -, -, hempty, -⟩ := parse_inverts_encode [] (updateWith [] none)
    exact hempty rfl rfl
  · obtain ⟨-, -, -, -, -, hspoilt, -⟩ := parse_inverts_encode [] (updateWith [] (some 0x10))
    exact hspoilt rfl (by decide)
  · rw [encode_lc rfl, List.length_replicate]
    rfl
  · obtain ⟨-, -, -, -, -, -, htooLong, hlength⟩ :=
      parse_inverts_encode [] (updateWith (List.replicate 257 0x3F) (some 0))
    have hlong : maxDataLength < (updateWith (List.replicate 257 0x3F) (some 0)).nc := by
      change 255 < (List.replicate 257 (0x3F : UInt8)).length
      rw [List.length_replicate]
      decide
    have hsize : (updateWith (List.replicate 257 0x3F) (some 0)).encodedLength = 263 := by
      simp only [encodedLength, updateWith, List.length_replicate]
    rw [htooLong hlong, ← hlength, hsize]

end CardLink.Command
