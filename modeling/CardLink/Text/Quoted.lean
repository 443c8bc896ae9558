/-!
# Quoted text in descriptions

The quoted form of a text puts a backslash before quotes and backslashes and writes the usual control
characters with their letters. The quoted form of one Latin-1 character uses single quotes, and names a
character that does not print by its number.
-/

namespace CardLink.Text

def escapeChar : Char → List Char
  | '"' => ['\\', '"']
  | '\\' => ['\\', '\\']
  | '\n' => ['\\', 'n']
  | '\r' => ['\\', 'r']
  | '\t' => ['\\', 't']
  | c => if c.toNat = 0 then ['\\', '0'] else [c]

/-- The text between double quotes. -/
def quote (s : String) : String :=
  String.ofList ('"' :: s.toList.flatMap escapeChar ++ ['"'])

/-- Control characters, the no-break space and the soft hyphen do not print. -/
def latinPrints (n : Nat) : Bool :=
  (0x20 ≤ n && n < 0x7F) || (0xA0 < n && n != 0xAD)

/-- The character with the code of the byte, between single quotes. -/
def quoteLatin (b : UInt8) : String :=
  let n := b.toNat
  let body :=
    if n = 0 then "\\0"
    else if n = 9 then "\\t"
    else if n = 10 then "\\n"
    else if n = 13 then "\\r"
    else if n = 39 then "\\'"
    else if n = 92 then "\\\\"
    else if latinPrints n then String.singleton (Char.ofNat n)
    else "\\u\x7b" ++ String.ofList (Nat.toDigits 16 n) ++ "\x7d"
  "'" ++ body ++ "'"

end CardLink.Text
