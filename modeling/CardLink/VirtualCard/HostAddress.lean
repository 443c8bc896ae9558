import CardLink.Text.Number

/-!
# Addresses and names of hosts

An address of version 4 is one to four parts, each a number of its own base, and the last of them fills
the bytes that the others leave. An address of version 6 is eight groups of hexadecimal digits; one double
colon stands for groups of zero, and the last two groups may be written as four decimal parts. The
interface that such an address belongs to follows a percent sign. A name of a host is made of labels. White
space belongs to none of these.
-/

namespace CardLink.VirtualCard

inductive HostAddress where
  | v4 (number : Nat)
  /-- Carries the interface that the address belongs to, zero for none. -/
  | v6 (groups : List Nat) (scope : Nat)
  deriving DecidableEq, Repr

namespace HostAddress

def loopback : HostAddress := .v4 2130706433

/-- A number that is hexadecimal after `0x`, octal after `0`, and else decimal. -/
def part? : List Char → Option Nat
  | '0' :: second :: rest =>
    if second = 'x' ∨ second = 'X' then Text.digitsIn? 16 rest else Text.digitsIn? 8 (second :: rest)
  | cs => Text.digits? cs

/-- The number below `room` that the parts make up: a byte each, and the last part what is left. -/
def join? (room : Nat) : List Nat → Option Nat
  | [] => none
  | [last] => if last < room then some last else none
  | part :: rest =>
    if part < 256 ∧ 256 < room then
      (join? (room / 256) rest).map fun low => part * (room / 256) + low
    else none

def v4? (host : String) : Option Nat :=
  ((host.splitOn ".").mapM fun part => part? part.toList).bind (join? Text.limit32)

/-- A byte in decimal without leading zeros. -/
def octet? (text : String) : Option Nat :=
  if text.length ≤ 3 ∧ (text = "0" ∨ !text.startsWith "0") then
    (Text.digits? text.toList).filter (· < 256)
  else none

/-- Two groups written as four decimal parts. -/
def dotted? (text : String) : Option (List Nat) :=
  match (text.splitOn ".").mapM octet? with
  | some [a, b, c, d] => some [a * 256 + b, c * 256 + d]
  | _ => none

def group? (text : String) : Option Nat :=
  if text.length ≤ 4 then Text.digitsIn? 16 text.toList else none

/-- The groups of the pieces between colons, of which the last may be dotted. -/
def groups? (dots : Bool) : List String → Option (List Nat)
  | [] => some []
  | [last] =>
    if dots && last.contains '.' then dotted? last else (group? last).map fun g => [g]
  | piece :: rest => (group? piece).bind fun g => (groups? dots rest).map (g :: ·)

/-- One side of the double colon, possibly empty. -/
def side? (dots : Bool) (text : String) : Option (List Nat) :=
  if text = "" then some [] else groups? dots (text.splitOn ":")

def v6? (text : String) : Option (List Nat) :=
  match text.splitOn "::" with
  | [whole] => (side? true whole).filter (·.length = 8)
  | [before, after] =>
    (side? false before).bind fun high => (side? true after).bind fun low =>
      let written := high.length + low.length
      if written < 8 then some (high ++ List.replicate (8 - written) 0 ++ low) else none
  | _ => none

/-- Whether the address stands for many hosts. -/
def isMulticast (groups : List Nat) : Bool := decide (0xFF00 ≤ groups.headD 0)

/-- Whether the address means something on one interface only. -/
def isLinkLocal (groups : List Nat) : Bool :=
  let first := groups.headD 0
  decide (0xFE80 ≤ first ∧ first < 0xFEC0)

/-- Whether the address is one of version 4 in the form of version 6. -/
def isMapped (groups : List Nat) : Bool := groups.take 6 == [0, 0, 0, 0, 0, 0xFFFF]

/-- Whether the address does not reach beyond a link, be it of one host or of many. -/
def isNear (groups : List Nat) : Bool :=
  let reach := groups.headD 0 % 16
  isLinkLocal groups || (isMulticast groups && (reach == 1 || reach == 2))

/-- The number of an interface. The name of the only one is known where an address needs it. -/
def scope? (groups : List Nat) (text : String) : Option Nat :=
  if text == "lo" && isNear groups then some 1
  else (Text.digits? text.toList).filter (· < Text.limit32)

def parse? (host : String) : Option HostAddress :=
  match v4? host with
  | some number => some (.v4 number)
  | none =>
    match host.splitOn "%" with
    | [address] => (v6? address).map fun groups => .v6 groups 0
    | [address, interface] =>
      (v6? address).bind fun groups => (scope? groups interface).map fun scope => .v6 groups scope
    | _ => none

end HostAddress

/-- At most sixty-three letters, digits, hyphens and underscores. -/
def isHostLabel (label : String) : Bool :=
  !label.isEmpty && decide (label.length ≤ 63)
    && label.all fun c => c.isAlphanum || c == '-' || c == '_'

/-- Whether a name server can be asked for the host: labels parted by dots and at most 253 characters, not
counting a dot at the end, of which the first is no hyphen. A dot alone is the root. -/
def isHostName (host : String) : Bool :=
  let labels := host.splitOn "."
  let labels := if labels.getLast? = some "" then labels.dropLast else labels
  host == "." || (!labels.isEmpty && labels.all isHostLabel && !host.startsWith "-"
    && decide ((".".intercalate labels).length ≤ 253))

end CardLink.VirtualCard
