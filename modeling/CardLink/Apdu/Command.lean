import CardLink.Hex

/-!
# Command APDUs with short length fields

Data that is present but empty differs from absent data: the former is written with a zero Lc byte. The
writer cuts both lengths to one byte and checks nothing; `checkLengths` says which commands it writes
faithfully. The reader never yields empty data: a single byte after the header is an Le, zero standing
for 256.
-/

namespace CardLink

structure Command where
  cla : UInt8
  ins : UInt8
  p1 : UInt8
  p2 : UInt8
  data : Option Bytes := none
  /-- The number of response bytes that the sender expects. -/
  le : Option Nat := none
  deriving DecidableEq, Repr

inductive CommandError where
  /-- Carries the number of bytes that form no command. -/
  | invalidLength (length : Nat)
  | dataTooLong (length max : Nat)
  | invalidExpectedLength (le : Nat)
  deriving DecidableEq, Repr

def CommandError.message : CommandError → String
  | .invalidLength n => "Invalid command length: " ++ toString n
  | .dataTooLong n max =>
    "Data too long: " ++ toString n ++ " bytes (max " ++ toString max ++ ")"
  | .invalidExpectedLength le => "Invalid expected length: " ++ toString le

namespace Command

def maxDataLength : Nat := 255

def maxExpectedLength : Nat := 256

/-- Selects an application by its identifier. -/
def selectAid (aid : Bytes) : Command := ⟨0x00, 0xA4, 0x04, 0x00, some aid, none⟩

def header (c : Command) : Bytes := [c.cla, c.ins, c.p1, c.p2]

/-- The data bytes, none when the data is absent. -/
def payload (c : Command) : Bytes := c.data.getD []

/-- The number of data bytes. -/
def nc (c : Command) : Nat := c.payload.length

def hasData (c : Command) : Bool := c.nc != 0

/-- The data length is looked at before the expected length. -/
def checkLengths (c : Command) : Except CommandError Unit :=
  if c.nc > maxDataLength then .error (.dataTooLong c.nc maxDataLength)
  else
    match c.le with
    | none => .ok ()
    | some le =>
      if le = 0 ∨ le > maxExpectedLength then .error (.invalidExpectedLength le) else .ok ()

def dataField (data : Option Bytes) : Bytes :=
  match data with
  | none => []
  | some bytes => UInt8.ofNat bytes.length :: bytes

def leField (le : Option Nat) : Bytes :=
  match le with
  | none => []
  | some n => [UInt8.ofNat n]

def encode (c : Command) : Bytes := c.header ++ dataField c.data ++ leField c.le

/-- The length of the encoding, computed from the fields. -/
def encodedLength (c : Command) : Nat :=
  4 + (match c.data with | none => 0 | some bytes => 1 + bytes.length)
    + (match c.le with | none => 0 | some _ => 1)

def decodeLe (b : UInt8) : Nat := if b = 0 then 256 else b.toNat

/-- Reads what follows the header of a command of `total` bytes. -/
def parseBody (bare : Command) (total : Nat) : Bytes → Except CommandError Command
  | [] => .ok bare
  | [le] => .ok { bare with le := some (decodeLe le) }
  | lc :: rest =>
    if lc = 0 then .error (.invalidLength total)
    else if rest.length = lc.toNat then .ok { bare with data := some rest }
    else if rest.length = lc.toNat + 1 then
      .ok { bare with
        data := some (rest.take lc.toNat)
        le := (rest.drop lc.toNat).head?.map decodeLe }
    else .error (.invalidLength total)

def parse (bytes : Bytes) : Except CommandError Command :=
  match bytes with
  | cla :: ins :: p1 :: p2 :: body => parseBody ⟨cla, ins, p1, p2, none, none⟩ bytes.length body
  | _ => .error (.invalidLength bytes.length)

/-- Upper-case digits of the encoding. -/
def text (c : Command) : String := Hex.encode c.encode

def describe (c : Command) : String :=
  let data := match c.data with
    | none => "None"
    | some bytes => "Some(\"" ++ Hex.encodeLower bytes ++ "\")"
  let le := match c.le with
    | none => "None"
    | some n => "Some(" ++ toString n ++ ")"
  "Command \x7b header: \"" ++ Hex.encodeLower c.header ++ "\", data: " ++ data
    ++ ", le: " ++ le ++ " \x7d"

end Command
end CardLink
