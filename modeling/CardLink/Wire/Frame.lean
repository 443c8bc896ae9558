import CardLink.Hex

/-!
# Frames

Every frame is a length in two bytes, high byte first, and that many bytes of payload. A payload of one
byte is a control code; any other payload is data: an APDU towards the card, an ATR or a response back.
-/

namespace CardLink

inductive ControlCode where
  | powerOff | powerOn | reset | getAtr
  /-- A code without a meaning. -/
  | other (code : UInt8)
  deriving DecidableEq, Repr

namespace ControlCode

def ofByte (b : UInt8) : ControlCode :=
  if b = 0 then .powerOff
  else if b = 1 then .powerOn
  else if b = 2 then .reset
  else if b = 4 then .getAtr
  else .other b

def toByte : ControlCode → UInt8
  | .powerOff => 0
  | .powerOn => 1
  | .reset => 2
  | .getAtr => 4
  | .other b => b

def name : ControlCode → String
  | .powerOff => "POWER_OFF"
  | .powerOn => "POWER_ON"
  | .reset => "RESET"
  | .getAtr => "GET_ATR"
  | .other b => "UNKNOWN(0x" ++ Hex.encodeLower [b] ++ ")"

end ControlCode

namespace Frame

def headerSize : Nat := 2

/-- The largest payload that the length can describe. -/
def maxPayload : Nat := 65535

/-- The length of a payload as it is written, cut to two bytes. -/
def header (length : Nat) : Bytes := [UInt8.ofNat (length / 256), UInt8.ofNat length]

/-- The length that a header describes. -/
def headerLength : Bytes → Nat
  | [hi, lo] => hi.toNat * 256 + lo.toNat
  | _ => 0

def encode (payload : Bytes) : Bytes := header payload.length ++ payload

def control (code : ControlCode) : Bytes := [0, 1, code.toByte]

theorem length_drop_lt (n : Nat) (hi lo : UInt8) (rest : Bytes) :
    (rest.drop n).length < (hi :: lo :: rest).length := by
  rw [List.length_drop, List.length_cons, List.length_cons]
  omega

/-- The payloads of the complete frames at the front of a byte string, and what is left after them. -/
def split (bytes : Bytes) : List Bytes × Bytes :=
  match bytes with
  | hi :: lo :: rest =>
    let length := headerLength [hi, lo]
    if length ≤ rest.length then
      let (payloads, left) := split (rest.drop length)
      (rest.take length :: payloads, left)
    else ([], bytes)
  | _ => ([], bytes)
  termination_by bytes.length
  decreasing_by exact length_drop_lt ..

end Frame
end CardLink
