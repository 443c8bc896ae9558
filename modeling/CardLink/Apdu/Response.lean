import CardLink.Apdu.Status

/-!
# Response APDUs

The data bytes followed by the status word. Whatever has at least two bytes is a response.
-/

namespace CardLink

structure Response where
  data : Bytes
  status : StatusWord
  deriving DecidableEq, Repr

inductive ResponseError where
  /-- Carries the number of bytes, which is below two. -/
  | incomplete (length : Nat)
  /-- A response was there but its status word is no success. -/
  | status (sw : StatusWord)
  deriving DecidableEq, Repr

def ResponseError.message : ResponseError → String
  | .incomplete n => "Incomplete response: " ++ toString n ++ " bytes"
  | .status sw => "Status error " ++ sw.label

namespace Response

def success (data : Bytes) : Response := ⟨data, .success⟩

def statusOnly (sw : StatusWord) : Response := ⟨[], sw⟩

def encode (r : Response) : Bytes := r.data ++ r.status.bytes

def encodedLength (r : Response) : Nat := r.data.length + 2

def parse (bytes : Bytes) : Except ResponseError Response :=
  match bytes.reverse with
  | sw2 :: sw1 :: before => .ok ⟨before.reverse, ⟨sw1, sw2⟩⟩
  | _ => .error (.incomplete bytes.length)

def isSuccess (r : Response) : Bool := r.status.isSuccess

/-- The data of a successful response. -/
def result (r : Response) : Except ResponseError Bytes :=
  if r.isSuccess then .ok r.data else .error (.status r.status)

/-- Upper-case digits of the encoding. -/
def text (r : Response) : String := Hex.encode r.encode

def describe (r : Response) : String :=
  "Response \x7b data: \"" ++ Hex.encodeLower r.data ++ "\", status: " ++ r.status.describe ++ " \x7d"

end Response
end CardLink
