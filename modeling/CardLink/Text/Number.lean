/-!
# Numbers in settings and arguments

Digits are ASCII. An unsigned number is an optional plus sign and at least one decimal digit, leading zeros
allowed. A signed number may have a minus sign instead. A value outside the range is no number.
-/

namespace CardLink.Text

/-- The value of a digit in a base up to sixteen, letters of either case. -/
def digit? (base : Nat) (c : Char) : Option Nat :=
  let value :=
    if c.isDigit then c.toNat - 48
    else if 'a' ≤ c ∧ c ≤ 'f' then c.toNat - 87
    else if 'A' ≤ c ∧ c ≤ 'F' then c.toNat - 55
    else base
  if value < base then some value else none

/-- The value of a non-empty run of digits in a base. -/
def digitsIn? (base : Nat) : List Char → Option Nat
  | [] => none
  | c :: cs =>
    (c :: cs).foldl
      (fun acc d => acc.bind fun n => (digit? base d).map fun value => n * base + value)
      (some 0)

/-- The value of a non-empty run of decimal digits. -/
def digits? (cs : List Char) : Option Nat := digitsIn? 10 cs

/-- An unsigned number below `bound`. -/
def unsignedBelow? (bound : Nat) (text : String) : Option Nat :=
  let value := match text.toList with
    | '+' :: rest => digits? rest
    | cs => digits? cs
  value.filter (· < bound)

/-- Numbers of so many bits lie below the limit. -/
def limit16 : Nat := 65536

def limit32 : Nat := 4294967296

def limit64 : Nat := 18446744073709551616

/-- Signed numbers of sixty-four bits lie below the limit, and at or above its negation. -/
def signedLimit64 : Nat := 9223372036854775808

/-- A signed number of sixty-four bits. -/
def signed64? (text : String) : Option Int :=
  match text.toList with
  | '-' :: rest => ((digits? rest).filter (· ≤ signedLimit64)).map fun n => -(n : Int)
  | '+' :: rest => ((digits? rest).filter (· < signedLimit64)).map Int.ofNat
  | cs => ((digits? cs).filter (· < signedLimit64)).map Int.ofNat

/-- A signed number that lies between zero and `bound`, the bound excluded. -/
def rangedBelow? (bound : Nat) (text : String) : Option Nat :=
  (signed64? text).bind fun n => if 0 ≤ n ∧ n < bound then some n.toNat else none

end CardLink.Text
