import CardLink.Hex

/-!
# Status words

The two bytes that end every response. Descriptions are fixed texts; a first byte of 61, 62, 63 or 6C
is described whatever the second byte is, all others only in the listed combinations.
-/

namespace CardLink

structure StatusWord where
  sw1 : UInt8
  sw2 : UInt8
  deriving DecidableEq, Repr

namespace StatusWord

def ofNat (n : Nat) : StatusWord := ⟨UInt8.ofNat (n / 256), UInt8.ofNat n⟩

def toNat (sw : StatusWord) : Nat := sw.sw1.toNat * 256 + sw.sw2.toNat

def success : StatusWord := ⟨0x90, 0x00⟩
def wrongLength : StatusWord := ⟨0x67, 0x00⟩
def conditionsNotSatisfied : StatusWord := ⟨0x69, 0x85⟩
def fileNotFound : StatusWord := ⟨0x6A, 0x82⟩
def invalidInstruction : StatusWord := ⟨0x6D, 0x00⟩
def classNotSupported : StatusWord := ⟨0x6E, 0x00⟩
def noPreciseDiagnosis : StatusWord := ⟨0x6F, 0x00⟩

/-- Only 9000 is a success; 61xx announces more data and is none. -/
def isSuccess (sw : StatusWord) : Bool := sw == success

def isMoreDataAvailable (sw : StatusWord) : Bool := sw.sw1 == 0x61

def description (sw : StatusWord) : String :=
  match sw.sw1.toNat, sw.sw2.toNat with
  | 0x90, 0x00 => "Success"
  | 0x61, _ => "More data available"
  | 0x62, _ => "Warning, state unchanged"
  | 0x63, _ => "Warning, state changed"
  | 0x67, 0x00 => "Wrong length"
  | 0x69, 0x82 => "Security status not satisfied"
  | 0x69, 0x85 => "Conditions of use not satisfied"
  | 0x69, 0x86 => "Command not allowed"
  | 0x6A, 0x80 => "Incorrect parameters in the data field"
  | 0x6A, 0x81 => "Function not supported"
  | 0x6A, 0x82 => "File or application not found"
  | 0x6A, 0x86 => "Incorrect parameters P1-P2"
  | 0x6C, _ => "Wrong Le field"
  | 0x6D, 0x00 => "Instruction code not supported or invalid"
  | 0x6E, 0x00 => "Class not supported"
  | 0x6F, 0x00 => "No precise diagnosis"
  | _, _ => "Unknown status word"

def bytes (sw : StatusWord) : Bytes := [sw.sw1, sw.sw2]

/-- Four upper-case digits. -/
def text (sw : StatusWord) : String := Hex.encode sw.bytes

/-- The status word with its description in brackets. -/
def label (sw : StatusWord) : String := sw.text ++ " (" ++ sw.description ++ ")"

def describe (sw : StatusWord) : String :=
  "StatusWord \x7b sw1: " ++ toString sw.sw1.toNat ++ ", sw2: " ++ toString sw.sw2.toNat ++ " \x7d"

end StatusWord
end CardLink
