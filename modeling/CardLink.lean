import CardLink.Main
import CardLink.Proofs.Wire.Announcements
import CardLink.Proofs.Wire.Frames
import CardLink.Scripted.Collaborator
import CardLink.Proofs.VirtualCard.Serving
import CardLink.Proofs.Apdu.RoundTrip
import CardLink.Proofs.Apdu.Parsing
import CardLink.Proofs.VirtualCard.DirectRun
import CardLink.Proofs.VirtualCard.JointRun
import CardLink.Proofs.VirtualCard.Lag
import CardLink.Proofs.Connection.Pairing
import CardLink.Proofs.Connection.Lifecycle
import CardLink.Proofs.VirtualCard.RemoteCard
import CardLink.Proofs.Connection.HeldChannel
import CardLink.Proofs.Connection.FailFast
import CardLink.Proofs.Connection.Selection
import CardLink.Proofs.Wire.Delivery
import CardLink.Proofs.Normalization.Received
import CardLink.Proofs.Wire.RoundTrip
import CardLink.Proofs.Wire.Whole
import CardLink.Proofs.VirtualCard.FrameByFrame
import CardLink.Proofs.Wire.Pauses
import CardLink.Proofs.Wire.Timeouts
import CardLink.Proofs.VirtualCard.Deadlines
import CardLink.Proofs.VirtualCard.Cancellation
import CardLink.Proofs.VirtualCard.SessionTraffic
import CardLink.Proofs.VirtualCard.InStep
import CardLink.Proofs.Connection.AppletLifecycle
import CardLink.Proofs.Connection.ClosedChannels
import CardLink.Proofs.Connection.LocalCard
import CardLink.Proofs.VirtualCard.Footing
import CardLink.Proofs.Connection.SoleSession
import CardLink.Proofs.Normalization.Acceptance
import CardLink.Proofs.Connection.SelectionAnswer
import CardLink.Proofs.Normalization.Journal
import CardLink.Proofs.Normalization.NormalForm
import CardLink.Proofs.VirtualCard.Journaled
import CardLink.Proofs.Connection.DebugLog
import CardLink.Proofs.Normalization.Debugging
import CardLink.Proofs.Connection.Debugging
import CardLink.Proofs.Connection.CallRegister
import CardLink.Proofs.Connection.Teardown
import CardLink.Proofs.VirtualCard.AnswersCounted
import CardLink.Proofs.Connection.ErrorContext
import CardLink.Proofs.Normalization.BufferTransmit
import CardLink.Proofs.VirtualCard.Termination
import CardLink.Proofs.Wire.WholeFrames
import CardLink.Proofs.Wire.SingleReads
import CardLink.Proofs.CommandLine.HexText
import CardLink.Proofs.CommandLine.Sending
import CardLink.Proofs.Connection.Views
import CardLink.Proofs.Connection.ReaderChoice
