/-!
# Hexadecimal text

Bytes are lists of octets. The printers give two digits per byte; the decoder works on the UTF-8 bytes
of a text, so a position in an error counts bytes. Separators are not part of this module.
-/

namespace CardLink

/-- Octets in the order in which they travel. -/
abbrev Bytes := List UInt8

namespace Hex

/-- The upper-case digit of a value below sixteen. -/
def digit (n : Nat) : Char :=
  Char.ofNat (if n < 10 then 48 + n else 55 + n)

def lowerDigit (n : Nat) : Char :=
  Char.ofNat (if n < 10 then 48 + n else 87 + n)

def digits (bytes : Bytes) : List Char :=
  bytes.flatMap fun b => [digit (b.toNat / 16), digit (b.toNat % 16)]

def lowerDigits (bytes : Bytes) : List Char :=
  bytes.flatMap fun b => [lowerDigit (b.toNat / 16), lowerDigit (b.toNat % 16)]

/-- Upper-case text, two digits per byte. -/
def encode (bytes : Bytes) : String := String.ofList (digits bytes)

/-- Lower-case text, two digits per byte. -/
def encodeLower (bytes : Bytes) : String := String.ofList (lowerDigits bytes)

inductive DecodeError where
  | oddLength
  /-- Carries the offending byte of the text and its position. -/
  | invalidCharacter (byte : UInt8) (position : Nat)
  deriving DecidableEq, Repr

/-- The value of a digit of either case. -/
def value? (b : UInt8) : Option UInt8 :=
  if 48 ≤ b ∧ b ≤ 57 then some (b - 48)
  else if 65 ≤ b ∧ b ≤ 70 then some (b - 55)
  else if 97 ≤ b ∧ b ≤ 102 then some (b - 87)
  else none

/-- Reads pairs of digits from the left; the first byte that is no digit decides the error. -/
def decodePairs (position : Nat) : Bytes → Except DecodeError Bytes
  | [] => .ok []
  | [_] => .error .oddLength
  | hi :: lo :: rest =>
    match value? hi with
    | none => .error (.invalidCharacter hi position)
    | some h =>
      match value? lo with
      | none => .error (.invalidCharacter lo (position + 1))
      | some l =>
        match decodePairs (position + 2) rest with
        | .error e => .error e
        | .ok bytes => .ok ((h * 16 + l) :: bytes)

/-- An odd number of bytes is refused before any byte is looked at. -/
def decode (text : Bytes) : Except DecodeError Bytes :=
  if text.length % 2 = 1 then .error .oddLength else decodePairs 0 text

end Hex
end CardLink
