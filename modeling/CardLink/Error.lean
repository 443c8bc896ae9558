import CardLink.Apdu.Command
import CardLink.Apdu.Response

/-!
# Failures of transports and channels

Errors are causes. A cause says what went wrong, `message` how that reads, and `source?` which cause
lies under it. Context put around an error reads in front of it; it is terminal when the error inside is,
but it is never a configuration error.
-/

namespace CardLink

inductive IoKind where
  | notFound | permissionDenied | connectionRefused | connectionReset | connectionAborted
  | notConnected | brokenPipe | wouldBlock | timedOut | invalidInput | writeZero | interrupted
  | unexpectedEof | networkUnreachable | addressInUse | addressNotAvailable | other
  deriving DecidableEq, Repr

/-- What an input or output failure of that kind says when it has no text of its own. -/
def IoKind.text : IoKind → String
  | .notFound => "entity not found"
  | .permissionDenied => "permission denied"
  | .connectionRefused => "connection refused"
  | .connectionReset => "connection reset"
  | .connectionAborted => "connection aborted"
  | .notConnected => "not connected"
  | .brokenPipe => "broken pipe"
  | .wouldBlock => "operation would block"
  | .timedOut => "timed out"
  | .invalidInput => "invalid input parameter"
  | .writeZero => "write zero"
  | .interrupted => "operation interrupted"
  | .unexpectedEof => "unexpected end of file"
  | .networkUnreachable => "network unreachable"
  | .addressInUse => "address in use"
  | .addressNotAvailable => "address not available"
  | .other => "other error"

/-- Whether a failure of that kind is a deadline that was hit. -/
def IoKind.isDeadline : IoKind → Bool
  | .wouldBlock | .timedOut => true
  | _ => false

structure IoError where
  kind : IoKind
  text : String := kind.text
  deriving DecidableEq, Repr

inductive TransportError where
  | io (cause : IoError)
  /-- The peer closed the stream before the wanted bytes were there. -/
  | connectionClosed (expected received : Nat)
  /-- The peer stopped sending inside a frame. -/
  | stalled (expected received : Nat)
  | frameTooLarge (length max : Nat)
  /-- Payload was asked for while no data frame is announced. -/
  | noPendingFrame
  | connection (reason : String)
  | device (reason : String)
  | timeout
  | cancelled
  deriving DecidableEq, Repr

namespace TransportError

/-- A deadline becomes a timeout; every other failure keeps its kind and text. -/
def ofIo (e : IoError) : TransportError := if e.kind.isDeadline then .timeout else .io e

/-- Whether the peer broke the rules of framing. -/
def isProtocolError : TransportError → Bool
  | .frameTooLarge .. | .noPendingFrame | .stalled .. => true
  | _ => false

def message : TransportError → String
  | .io e => "I/O error: " ++ e.text
  | .connectionClosed expected received =>
    "Connection closed by peer after " ++ toString received ++ " of " ++ toString expected ++ " bytes"
  | .stalled expected received =>
    "Peer stalled mid-frame after " ++ toString received ++ " of " ++ toString expected ++ " bytes"
  | .frameTooLarge length max =>
    "Frame too large: " ++ toString length ++ " bytes (max " ++ toString max ++ ")"
  | .noPendingFrame => "No data frame pending"
  | .connection reason => "Failed to connect: " ++ reason
  | .device reason => "Device error: " ++ reason
  | .timeout => "Operation timed out"
  | .cancelled => "Operation cancelled"

/-- The texts of the causes below, outermost first. -/
def sources : TransportError → List String
  | .io e => [e.text]
  | _ => []

end TransportError

inductive ChannelError where
  /-- A normalizing channel was put around another one. -/
  | doubleWrap
  | unsupported (operation : String)
  /-- The channel was closed and cannot be used again. -/
  | closed
  | notConnected
  /-- A transport failed outside an exchange of APDUs. -/
  | transport (cause : TransportError)
  /-- An exchange of APDUs failed; its channel is out of step. -/
  | transmit (cause : TransportError)
  | bufferTooSmall (needed available : Nat)
  | command (cause : CommandError)
  | response (cause : ResponseError)
  | context (note : String) (source : ChannelError)
  | other (text : String)
  deriving DecidableEq, Repr

namespace ChannelError

def message : ChannelError → String
  | .doubleWrap => "Configuration error: channel is already wrapped"
  | .unsupported operation => "Operation not supported: " ++ operation
  | .closed => "Channel is closed"
  | .notConnected => "Channel is not connected"
  | .transport cause => cause.message
  | .transmit cause => "Transmit failed: " ++ cause.message
  | .bufferTooSmall needed available =>
    "Buffer too small: need " ++ toString needed ++ " bytes, have " ++ toString available
  | .command cause => cause.message
  | .response cause => cause.message
  | .context note source => note ++ ": " ++ source.message
  | .other text => text

/-- Whether trying again is pointless. Context hides the error inside. -/
def isConfig : ChannelError → Bool
  | .doubleWrap | .unsupported _ => true
  | _ => false

/-- Whether the channel cannot be used any more. Context is looked through. -/
def isTerminal : ChannelError → Bool
  | .transport _ | .transmit _ | .closed => true
  | .context _ source => source.isTerminal
  | _ => false

/-- The texts of the causes below, outermost first. A transport error stands for itself, so it does not
count as its own cause. -/
def sources : ChannelError → List String
  | .transport cause => cause.sources
  | .transmit cause => cause.message :: cause.sources
  | .context _ source => source.message :: source.sources
  | _ => []

/-- Puts the notes around the error, the first one innermost. -/
def withContext (e : ChannelError) (notes : List String) : ChannelError :=
  notes.foldl (fun e note => .context note e) e

end ChannelError
end CardLink
