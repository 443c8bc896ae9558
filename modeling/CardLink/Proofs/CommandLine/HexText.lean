import CardLink.CommandLine.HexArgument
import CardLink.Text.Number

/-!
# Which texts are bytes

An argument is read exactly if what is left of it without white space and colons is an even number of hexadecimal
digits, and then it is the bytes that the digits spell. So the texts that are read as some bytes are the printed form
of these bytes with the case of letters changed and separators put anywhere, also between the two digits of a byte.
The decoder works on the UTF-8 bytes of the text; beyond ASCII each character begins with a byte that is no digit.
-/

namespace CardLink

/-- The values of the digits that the bytes are written with. -/
def Hex.halves (bytes : Bytes) : List Nat := bytes.flatMap fun b => [b.toNat / 16, b.toNat % 16]

/-- Two digits for each byte, the high half first. -/
def Hex.Spells (digits : List Char) (bytes : Bytes) : Prop :=
  digits.map (Text.digit? 16) = (Hex.halves bytes).map some

def Text.IsHexDigit (c : Char) : Prop := (Text.digit? 16 c).isSome = true

/-! ## Digits -/

namespace Text

theorem digit?_eq (c : Char) :
    digit? 16 c =
      if 48 ≤ c.toNat ∧ c.toNat ≤ 57 then some (c.toNat - 48)
      else if 97 ≤ c.toNat ∧ c.toNat ≤ 102 then some (c.toNat - 87)
      else if 65 ≤ c.toNat ∧ c.toNat ≤ 70 then some (c.toNat - 55)
      else none := by
  have hdigit : c.isDigit = true ↔ 48 ≤ c.toNat ∧ c.toNat ≤ 57 := Char.isDigit_iff_toNat
  have hlower : 'a' ≤ c ∧ c ≤ 'f' ↔ 97 ≤ c.toNat ∧ c.toNat ≤ 102 := Iff.rfl
  have hupper : 'A' ≤ c ∧ c ≤ 'F' ↔ 65 ≤ c.toNat ∧ c.toNat ≤ 70 := Iff.rfl
  simp only [digit?, hdigit, hlower, hupper]
  grind

theorem toNat_toLower (c : Char) :
    c.toLower.toNat = if 65 ≤ c.toNat ∧ c.toNat ≤ 90 then c.toNat + 32 else c.toNat := by
  have hupper : c.val ≥ 'A'.val ∧ c.val ≤ 'Z'.val ↔ 65 ≤ c.toNat ∧ c.toNat ≤ 90 := Iff.rfl
  unfold Char.toLower
  by_cases h : 65 ≤ c.toNat ∧ c.toNat ≤ 90
  · rw [dif_pos (hupper.mpr h), if_pos h]
    have hcode : (c.val + ('a'.val - 'A'.val)).toNat = c.val.toNat + 32 := by
      rw [UInt32.toNat_add]
      have := h.2
      rw [← Char.toNat_val] at this
      exact Nat.mod_eq_of_lt (by simp; omega)
    exact hcode
  · rw [dif_neg (fun hc => h (hupper.mp hc)), if_neg h]

theorem digit?_lt {c : Char} {n : Nat} (h : digit? 16 c = some n) : n < 16 := by
  rw [digit?_eq] at h
  grind

/-- The case of a digit does not count. -/
theorem digit?_of_toLower {c d : Char} (h : d.toLower = c.toLower) : digit? 16 d = digit? 16 c := by
  have hcode := congrArg Char.toNat h
  rw [toNat_toLower, toNat_toLower] at hcode
  rw [digit?_eq, digit?_eq]
  grind

theorem toLower_of_digit? {c d : Char} {n : Nat} (hc : digit? 16 c = some n) (hd : digit? 16 d = some n) :
    d.toLower = c.toLower := by
  apply Char.toNat_inj.mp
  rw [toNat_toLower, toNat_toLower]
  rw [digit?_eq] at hc hd
  grind

end Text

/-! ## Decoding -/

namespace Hex

theorem halves_cons (b : UInt8) (bytes : Bytes) :
    halves (b :: bytes) = b.toNat / 16 :: b.toNat % 16 :: halves bytes := rfl

theorem length_halves (bytes : Bytes) : (halves bytes).length = 2 * bytes.length := by
  induction bytes with
  | nil => rfl
  | cons b bytes ih =>
    rw [halves_cons, List.length_cons, List.length_cons, ih, List.length_cons]
    omega

/-- Each even number of values of digits are the halves of some bytes. -/
theorem exists_halves {values : List Nat} (hsmall : ∀ n ∈ values, n < 16) (heven : values.length % 2 = 0) :
    ∃ bytes, halves bytes = values := by
  match values with
  | [] => exact ⟨[], rfl⟩
  | [_] => simp at heven
  | h :: l :: rest =>
    have hh := hsmall h (by simp)
    have hl := hsmall l (by simp)
    have hrest : ∀ n ∈ rest, n < 16 := by
      intro n hn
      exact hsmall n (by simp [hn])
    have heven' : rest.length % 2 = 0 := by
      simp only [List.length_cons] at heven
      omega
    obtain ⟨bytes, hbytes⟩ := exists_halves hrest heven'
    have hbyte : (UInt8.ofNat (h * 16 + l)).toNat = h * 16 + l := by
      rw [UInt8.toNat_ofNat']
      omega
    refine ⟨UInt8.ofNat (h * 16 + l) :: bytes, ?_⟩
    rw [halves_cons, hbytes, hbyte, show (h * 16 + l) / 16 = h by omega, show (h * 16 + l) % 16 = l by omega]

/-- The value of a digit given as a byte. -/
def byteValue (b : UInt8) : Option Nat := (value? b).map UInt8.toNat

theorem byteValue_eq (b : UInt8) :
    byteValue b =
      if 48 ≤ b.toNat ∧ b.toNat ≤ 57 then some (b.toNat - 48)
      else if 97 ≤ b.toNat ∧ b.toNat ≤ 102 then some (b.toNat - 87)
      else if 65 ≤ b.toNat ∧ b.toNat ≤ 70 then some (b.toNat - 55)
      else none := by
  have hsub : ∀ d : UInt8, d ≤ b → (b - d).toNat = b.toNat - d.toNat := fun d h => UInt8.toNat_sub_of_le b d h
  unfold byteValue value?
  by_cases hdigit : 48 ≤ b ∧ b ≤ 57
  · have hcode : 48 ≤ b.toNat ∧ b.toNat ≤ 57 := hdigit
    rw [if_pos hdigit, if_pos hcode]
    exact congrArg some (hsub 48 hdigit.1)
  · have hcode : ¬ (48 ≤ b.toNat ∧ b.toNat ≤ 57) := hdigit
    rw [if_neg hdigit, if_neg hcode]
    by_cases hupper : 65 ≤ b ∧ b ≤ 70
    · have hcode : 65 ≤ b.toNat ∧ b.toNat ≤ 70 := hupper
      rw [if_pos hupper, if_neg (by omega), if_pos hcode]
      exact congrArg some (hsub 55 (UInt8.le_trans (by decide) hupper.1))
    · have hcode : ¬ (65 ≤ b.toNat ∧ b.toNat ≤ 70) := hupper
      rw [if_neg hupper, if_neg hcode]
      by_cases hlower : 97 ≤ b ∧ b ≤ 102
      · have hcode : 97 ≤ b.toNat ∧ b.toNat ≤ 102 := hlower
        rw [if_pos hlower, if_pos hcode]
        exact congrArg some (hsub 87 (UInt8.le_trans (by decide) hlower.1))
      · have hcode : ¬ (97 ≤ b.toNat ∧ b.toNat ≤ 102) := hlower
        rw [if_neg hlower, if_neg hcode]
        rfl

theorem byteValue_lt {b : UInt8} {n : Nat} (h : byteValue b = some n) : n < 16 := by
  rw [byteValue_eq] at h
  grind

/-- A byte is given by the values of its two digits. -/
theorem ofHalves_iff {first second hi lo b : UInt8} (hhi : value? first = some hi) (hlo : value? second = some lo) :
    hi * 16 + lo = b ↔ byteValue first = some (b.toNat / 16) ∧ byteValue second = some (b.toNat % 16) := by
  have hfirst : byteValue first = some hi.toNat := congrArg (Option.map UInt8.toNat) hhi
  have hsecond : byteValue second = some lo.toNat := congrArg (Option.map UInt8.toNat) hlo
  have hh := byteValue_lt hfirst
  have hl := byteValue_lt hsecond
  have hcode : (hi * 16 + lo).toNat = hi.toNat * 16 + lo.toNat := by
    rw [UInt8.toNat_add, UInt8.toNat_mul, show (16 : UInt8).toNat = 16 from rfl]
    omega
  rw [← UInt8.toNat_inj, hcode, hfirst, hsecond, Option.some.injEq, Option.some.injEq]
  omega

/-- The decoder gives the bytes that the digits spell. -/
theorem decodePairs_iff (position : Nat) (text bytes : Bytes) :
    decodePairs position text = .ok bytes ↔ text.map byteValue = (halves bytes).map some := by
  fun_induction decodePairs position text generalizing bytes with
  | case1 position => cases bytes <;> simp [halves]
  | case2 position b => cases bytes <;> simp [halves]
  | case3 position first second rest hnone => cases bytes <;> simp [halves, byteValue, hnone]
  | case4 position first second rest hi hhi hnone => cases bytes <;> simp [halves, byteValue, hnone]
  | case5 position first second rest hi hhi lo hlo e hrest ih =>
    rw [hrest] at ih
    cases bytes with
    | nil => simp [halves]
    | cons b bytes =>
      have hne : rest.map byteValue ≠ (halves bytes).map some := fun heq => nomatch (ih bytes).mpr heq
      simp [halves_cons, hne]
  | case6 position first second rest hi hhi lo hlo decoded hrest ih =>
    rw [hrest] at ih
    cases bytes with
    | nil => simp [halves]
    | cons b bytes =>
      have hbytes : decoded = bytes ↔ rest.map byteValue = (halves bytes).map some := by
        rw [← ih bytes, Except.ok.injEq]
      rw [Except.ok.injEq, List.cons.injEq, ofHalves_iff hhi hlo, hbytes, and_assoc]
      simp [halves_cons]

theorem decode_iff (text bytes : Bytes) :
    decode text = .ok bytes ↔ text.map byteValue = (halves bytes).map some := by
  unfold decode
  by_cases hodd : text.length % 2 = 1
  · rw [if_pos hodd]
    constructor
    · intro h
      cases h
    · intro h
      have hlength := congrArg List.length h
      rw [List.length_map, List.length_map, length_halves] at hlength
      omega
  · rw [if_neg hodd, decodePairs_iff]

end Hex

/-! ## Characters and their bytes -/

namespace Text

theorem utf8EncodeChar_ascii {c : Char} (h : c.toNat < 128) :
    ∃ b, String.utf8EncodeChar c = [b] ∧ Hex.byteValue b = digit? 16 c := by
  have hcode : c.val.toNat ≤ 127 := Nat.le_of_lt_succ h
  refine ⟨UInt8.ofNat c.toNat, if_pos hcode, ?_⟩
  rw [Hex.byteValue_eq, digit?_eq, UInt8.toNat_ofNat', Nat.mod_eq_of_lt (by omega)]

/-- Beyond ASCII a character begins with a byte that is no digit. -/
theorem utf8EncodeChar_beyond {c : Char} (h : 128 ≤ c.toNat) :
    ∃ b rest, String.utf8EncodeChar c = b :: rest ∧ Hex.byteValue b = none := by
  have hcode : ¬ c.val.toNat ≤ 127 := Nat.not_le.mpr h
  have hlead : ∀ n, 128 ≤ n → n < 256 → Hex.byteValue (UInt8.ofNat n) = none := by
    intro n hn hlt
    rw [Hex.byteValue_eq, UInt8.toNat_ofNat', Nat.mod_eq_of_lt hlt]
    grind
  simp only [String.utf8EncodeChar, if_neg hcode]
  split
  · exact ⟨_, _, rfl, hlead _ (by omega) (by omega)⟩
  · split
    · exact ⟨_, _, rfl, hlead _ (by omega) (by omega)⟩
    · exact ⟨_, _, rfl, hlead _ (by omega) (by omega)⟩

theorem digit?_beyond {c : Char} (h : 128 ≤ c.toNat) : digit? 16 c = none := by
  rw [digit?_eq]
  grind

/-- The bytes of a text have the values of its characters, if they are digits at all. -/
theorem byteValues_iff (cs : List Char) (values : List Nat) :
    (cs.flatMap String.utf8EncodeChar).map Hex.byteValue = values.map some ↔
      cs.map (digit? 16) = values.map some := by
  induction cs generalizing values with
  | nil => rfl
  | cons c cs ih =>
    rcases Nat.lt_or_ge c.toNat 128 with hascii | hbeyond
    · obtain ⟨b, hencode, hvalue⟩ := utf8EncodeChar_ascii hascii
      rw [List.flatMap_cons, hencode]
      cases values with
      | nil => simp
      | cons value values => simp [hvalue, ih]
    · obtain ⟨b, rest, hencode, hvalue⟩ := utf8EncodeChar_beyond hbeyond
      rw [List.flatMap_cons, hencode]
      cases values <;> simp [hvalue, digit?_beyond hbeyond]

end Text

/-! ## Arguments -/

namespace CommandLine

open Hex (Spells halves)
open Text (digit? IsHexDigit)

/-- The characters of the text that are not separators. -/
def significant (text : String) : List Char := text.toList.filter fun c => !isSeparator c

/-- What a text becomes when the case of letters is changed and separators are put anywhere. -/
inductive Respelt : List Char → List Char → Prop where
  | nil : Respelt [] []
  | letter {c d : Char} {cs ds : List Char} : d.toLower = c.toLower → Respelt cs ds → Respelt (c :: cs) (d :: ds)
  | separator {c : Char} {cs ds : List Char} : isSeparator c = true → Respelt cs ds → Respelt cs (c :: ds)

theorem parseHex_ok_iff (text : String) (bytes : Bytes) :
    parseHex text = .ok bytes ↔ Spells (significant text) bytes :=
  (Hex.decode_iff _ _).trans (Text.byteValues_iff _ _)

/-! ## What digits spell -/

theorem isHexDigit_of_spells {digits : List Char} {bytes : Bytes} (h : Spells digits bytes) :
    ∀ c ∈ digits, IsHexDigit c := by
  intro c hc
  have hmem : digit? 16 c ∈ (halves bytes).map some := by
    rw [← h]
    exact List.mem_map_of_mem hc
  obtain ⟨n, -, hn⟩ := List.mem_map.mp hmem
  rw [IsHexDigit, ← hn]
  rfl

theorem exists_spells_iff (digits : List Char) :
    (∃ bytes, Spells digits bytes) ↔ (∀ c ∈ digits, IsHexDigit c) ∧ digits.length % 2 = 0 := by
  constructor
  · rintro ⟨bytes, h⟩
    have hlength := congrArg List.length h
    rw [List.length_map, List.length_map, Hex.length_halves] at hlength
    exact ⟨isHexDigit_of_spells h, by omega⟩
  · rintro ⟨hdigits, heven⟩
    have hvalue : ∀ c ∈ digits, digit? 16 c = some ((digit? 16 c).getD 0) := by
      intro c hc
      obtain ⟨n, hn⟩ := Option.isSome_iff_exists.mp (hdigits c hc)
      rw [hn]
      rfl
    have hsmall : ∀ n ∈ digits.map fun c => (digit? 16 c).getD 0, n < 16 := by
      intro n hn
      obtain ⟨c, hc, rfl⟩ := List.mem_map.mp hn
      exact Text.digit?_lt (hvalue c hc)
    obtain ⟨bytes, hbytes⟩ := Hex.exists_halves hsmall (by rwa [List.length_map])
    refine ⟨bytes, ?_⟩
    rw [Spells, hbytes, List.map_map]
    exact List.map_congr_left hvalue

/-- What is printed for bytes spells them. -/
theorem digits_spell (bytes : Bytes) : Spells (Hex.digits bytes) bytes := by
  have hdigit : ∀ n < 16, digit? 16 (Hex.digit n) = some n := by decide
  unfold Spells
  induction bytes with
  | nil => rfl
  | cons b bytes ih =>
    have hb := b.toNat_lt
    have hcons : Hex.digits (b :: bytes) =
        Hex.digit (b.toNat / 16) :: Hex.digit (b.toNat % 16) :: Hex.digits bytes := rfl
    rw [hcons, List.map_cons, List.map_cons, ih, hdigit _ (by omega), hdigit _ (by omega)]
    rfl

/-! ## Respelling -/

theorem digit?_separator {c : Char} (h : isSeparator c = true) : digit? 16 c = none := by
  have hcode : c.toNat ≤ 32 ∨ c.toNat = 58 ∨ 128 ≤ c.toNat := by
    simp only [isSeparator, Text.isBlank, Bool.or_eq_true, Bool.and_eq_true, decide_eq_true_eq, beq_iff_eq] at h
    rcases h with hblank | hcolon
    · omega
    · exact Or.inr (Or.inl (congrArg Char.toNat hcolon))
  rw [Text.digit?_eq, if_neg (by omega), if_neg (by omega), if_neg (by omega)]

theorem not_separator_of_isHexDigit {c : Char} (h : IsHexDigit c) : isSeparator c = false := by
  cases hc : isSeparator c with
  | false => rfl
  | true =>
    rw [IsHexDigit, digit?_separator hc] at h
    cases h

/-- A text is a respelling of digits exactly if it has the same digits, up to case, and separators besides. -/
theorem respelt_iff {cs ds : List Char} (hcs : ∀ c ∈ cs, IsHexDigit c) :
    Respelt cs ds ↔ (ds.filter fun c => !isSeparator c).map (digit? 16) = cs.map (digit? 16) := by
  constructor
  · intro h
    induction h with
    | nil => rfl
    | @letter c d cs ds hcase _ ih =>
      have hvalue := Text.digit?_of_toLower hcase
      have hd : isSeparator d = false := by
        apply not_separator_of_isHexDigit
        rw [IsHexDigit, hvalue]
        exact hcs c List.mem_cons_self
      rw [List.filter_cons_of_pos (by simp [hd]), List.map_cons, List.map_cons, hvalue,
        ih fun c hc => hcs c (List.mem_cons_of_mem _ hc)]
    | @separator d cs ds hd _ ih =>
      rw [List.filter_cons_of_neg (by simp [hd])]
      exact ih hcs
  · intro h
    induction ds generalizing cs with
    | nil =>
      cases cs with
      | nil => exact .nil
      | cons c cs => cases h
    | cons d ds ih =>
      cases hd : isSeparator d with
      | true =>
        rw [List.filter_cons_of_neg (by simp [hd])] at h
        exact .separator hd (ih hcs h)
      | false =>
        rw [List.filter_cons_of_pos (by simp [hd])] at h
        cases cs with
        | nil => cases h
        | cons c cs =>
          obtain ⟨hvalue, hrest⟩ := List.cons.inj h
          obtain ⟨n, hn⟩ := Option.isSome_iff_exists.mp (hcs c List.mem_cons_self)
          have hcase := Text.toLower_of_digit? hn (hvalue.trans hn)
          exact .letter hcase (ih (fun c hc => hcs c (List.mem_cons_of_mem _ hc)) hrest)

theorem respelt_digits_iff (bytes : Bytes) (text : String) :
    Respelt (Hex.digits bytes) text.toList ↔ Spells (significant text) bytes := by
  have hprinted := digits_spell bytes
  rw [respelt_iff (isHexDigit_of_spells hprinted), hprinted]
  rfl

/-- A text is read as the bytes that its digits spell, and some are spelt exactly by an even number of digits. The
texts that are read as some bytes are the respellings of what is printed for them, which is one of them itself. -/
theorem parseHex_reads_respellings (text : String) (bytes : Bytes) :
    (parseHex text = .ok bytes ↔ Spells (significant text) bytes) ∧
    ((∃ read, parseHex text = .ok read) ↔
      (∀ c ∈ significant text, IsHexDigit c) ∧ (significant text).length % 2 = 0) ∧
    (Respelt (Hex.encode bytes).toList text.toList ↔ parseHex text = .ok bytes) ∧
    parseHex (Hex.encode bytes) = .ok bytes := by
  have hprinted : (Hex.encode bytes).toList = Hex.digits bytes := String.toList_ofList
  have hkept : significant (Hex.encode bytes) = Hex.digits bytes := by
    rw [significant, hprinted]
    apply List.filter_eq_self.mpr
    intro c hc
    rw [not_separator_of_isHexDigit (isHexDigit_of_spells (digits_spell bytes) c hc)]
    rfl
  refine ⟨parseHex_ok_iff text bytes, ?_, ?_, ?_⟩
  · rw [← exists_spells_iff]
    simp only [parseHex_ok_iff]
  · rw [parseHex_ok_iff, hprinted, respelt_digits_iff]
  · rw [parseHex_ok_iff, hkept]
    exact digits_spell bytes

-- a no-break space between the digits of a byte
example : parseHex "0\u00a00 a:4" = .ok [0x00, 0xA4] := by rfl

example : parseHex "00 é" = .error (.invalidCharacter 0xC3 2) := by rfl

end CommandLine

end CardLink
