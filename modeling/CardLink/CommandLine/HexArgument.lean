import CardLink.Hex
import CardLink.Text.Blank
import CardLink.Text.Quoted

/-!
# Bytes as arguments

Hexadecimal digits of either case with white space and colons anywhere between them. What is left without
the separators is decoded as UTF-8 bytes, so lengths and positions in errors count bytes.
-/

namespace CardLink.CommandLine

def isSeparator (c : Char) : Bool := Text.isBlank c || c == ':'

/-- The UTF-8 bytes of the text without its separators. -/
def stripped (text : String) : Bytes :=
  (text.toList.filter fun c => !isSeparator c).flatMap String.utf8EncodeChar

def parseHex (text : String) : Except Hex.DecodeError Bytes := Hex.decode (stripped text)

def hexErrorMessage : Hex.DecodeError → String
  | .oddLength => "Odd number of digits"
  | .invalidCharacter b position =>
    "Invalid character " ++ Text.quoteLatin b ++ " at position " ++ toString position

end CardLink.CommandLine
