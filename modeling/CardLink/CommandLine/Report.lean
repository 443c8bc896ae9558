import CardLink.Channel

/-!
# What the command line prints

Lines of output are kept apart by what they tell; their text, with or without colours, is made here. A
failure prints its message and, below it, the causes, numbered if there are several.
-/

namespace CardLink.CommandLine

inductive Colour where
  | bold | red | green | cyan
  deriving DecidableEq, Repr

def Colour.code : Colour → String
  | .bold => "1"
  | .red => "31"
  | .green => "32"
  | .cyan => "36"

/-- The text in a colour, if colours are wanted. -/
def paint (colours : Bool) (colour : Colour) (text : String) : String :=
  if colours then "\x1b[" ++ colour.code ++ "m" ++ text ++ "\x1b[0m" else text

/-- The data, if there is any, and the status word with its description, green for a success. -/
def formatResponse (colours : Bool) (r : Response) : String :=
  let status := paint colours (if r.isSuccess then .green else .red) r.status.label
  if r.data = [] then status else Hex.encode r.data ++ " " ++ status

inductive Line where
  | version
  | selected (r : Response)
  | atr (a : Atr)
  | protocol (p : Option Protocol)
  | round (number : Nat)
  | sent (c : Command)
  /-- Carries the time that the exchange took, in milliseconds. -/
  | answered (r : Response) (elapsed : Nat)
  deriving DecidableEq, Repr

/-- The text of the line; times are written by the caller's choice. -/
def Line.text (colours : Bool) (time : Nat → String) : Line → String
  | .version => "rcard-cli 0.1.0"
  | .selected r => "SELECT: " ++ formatResponse colours r
  | .atr a => "ATR: " ++ paint colours .cyan a.text
  | .protocol (some p) => "Protocol: " ++ p.name
  | .protocol none => "Protocol: unknown"
  | .round number => paint colours .bold ("Round " ++ toString number)
  | .sent c => ">> " ++ c.text
  | .answered r elapsed => "<< " ++ formatResponse colours r ++ " [" ++ time elapsed ++ " ms]"

/-- A failure with the causes below it, outermost first. -/
structure Failure where
  message : String
  causes : List String := []
  deriving DecidableEq, Repr

/-- The number of a cause, right-aligned in five columns. -/
def causeNumber (n : Nat) : String :=
  let digits := toString n
  String.ofList (List.replicate (5 - digits.length) ' ') ++ digits

def numberedCauses (number : Nat) : List String → List String
  | [] => []
  | cause :: rest => (causeNumber number ++ ": " ++ cause) :: numberedCauses (number + 1) rest

def Failure.lines (f : Failure) : List String :=
  let causes := match f.causes with
    | [] => []
    | [cause] => ["", "Caused by:", "    " ++ cause]
    | causes => ["", "Caused by:"] ++ numberedCauses 0 causes
  ("Error: " ++ f.message) :: causes

/-- What a run of the program leaves behind. -/
structure Report where
  code : Nat
  output : List Line := []
  errors : List String := []
  deriving Repr

end CardLink.CommandLine
