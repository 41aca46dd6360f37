import CanStream.Address
import CanStream.ByteOrder
import CanStream.ByteQueue.Basic
import CanStream.CanId
import CanStream.Endpoint.Basic
import CanStream.Error.Frame
import CanStream.Error.Io
import CanStream.Error.Socket
import CanStream.FlagSet
import CanStream.Frame.Basic
import CanStream.Frame.Change
import CanStream.Frame.Stream
import CanStream.Frame.Text
import CanStream.Main
import CanStream.Proofs.ByteQueue.Chunks
import CanStream.Proofs.ByteQueue.Contents
import CanStream.Proofs.ByteQueue.Flat
import CanStream.Proofs.Endpoint.Calls
import CanStream.Proofs.Endpoint.Options
import CanStream.Proofs.Frame.Block
import CanStream.Proofs.Frame.Canonical
import CanStream.Proofs.Frame.Grammar
import CanStream.Proofs.Frame.Identifier
import CanStream.Proofs.Frame.Kinds
import CanStream.Proofs.Frame.Layout
import CanStream.Proofs.Frame.Made
import CanStream.Proofs.Frame.RoundTrip
import CanStream.Proofs.Frame.Spelling
import CanStream.Proofs.Frame.Transition
import CanStream.Proofs.IsoTp.Options
import CanStream.Proofs.IsoTp.Pieces
import CanStream.Proofs.IsoTp.Receive
import CanStream.Proofs.IsoTp.Transmit
import CanStream.Proofs.Protocol.Arrivals
import CanStream.Proofs.Protocol.Diligence
import CanStream.Proofs.Protocol.Gathering
import CanStream.Proofs.Protocol.Hook
import CanStream.Proofs.Protocol.Polls
import CanStream.Proofs.Protocol.TearDown
import CanStream.Proofs.Protocol.Transfers
import CanStream.Proofs.Protocol.Truth
import CanStream.Proofs.Raw.Aborted
import CanStream.Proofs.Raw.Failure
import CanStream.Proofs.Raw.Malformed
import CanStream.Proofs.Raw.Options
import CanStream.Proofs.Raw.Reading
import CanStream.Proofs.Raw.Receive
import CanStream.Proofs.Raw.Sending
import CanStream.Proofs.Raw.Suspension
import CanStream.Proofs.Raw.Taking
import CanStream.Proofs.Raw.Transmit
import CanStream.Proofs.Raw.Writing
import CanStream.Proofs.Socket.Account
import CanStream.Proofs.Socket.Admission
import CanStream.Proofs.Socket.After
import CanStream.Proofs.Socket.Alone
import CanStream.Proofs.Socket.Backlog
import CanStream.Proofs.Socket.Backpressure
import CanStream.Proofs.Socket.Buffers
import CanStream.Proofs.Socket.Callbacks
import CanStream.Proofs.Socket.Coherence
import CanStream.Proofs.Socket.Complaint
import CanStream.Proofs.Socket.Composes
import CanStream.Proofs.Socket.Delivery
import CanStream.Proofs.Socket.Descriptor
import CanStream.Proofs.Socket.Detached
import CanStream.Proofs.Socket.Dispatch
import CanStream.Proofs.Socket.Fields
import CanStream.Proofs.Socket.Headway
import CanStream.Proofs.Socket.Heed
import CanStream.Proofs.Socket.History
import CanStream.Proofs.Socket.Holding
import CanStream.Proofs.Socket.Intake
import CanStream.Proofs.Socket.Minding
import CanStream.Proofs.Socket.OpenMode
import CanStream.Proofs.Socket.Operations
import CanStream.Proofs.Socket.Outcomes
import CanStream.Proofs.Socket.Outline
import CanStream.Proofs.Socket.Outlook
import CanStream.Proofs.Socket.Overlap
import CanStream.Proofs.Socket.Passive
import CanStream.Proofs.Socket.Pump
import CanStream.Proofs.Socket.ReadLimit
import CanStream.Proofs.Socket.ReadNotification
import CanStream.Proofs.Socket.Reentry
import CanStream.Proofs.Socket.Run
import CanStream.Proofs.Socket.Settled
import CanStream.Proofs.Socket.States
import CanStream.Proofs.Socket.Suspension
import CanStream.Proofs.Socket.Termination
import CanStream.Proofs.Socket.Turns
import CanStream.Proofs.Socket.Undisturbed
import CanStream.Proofs.Socket.Unheard
import CanStream.Proofs.Socket.Unpolled
import CanStream.Proofs.Socket.Upholds
import CanStream.Proofs.Socket.Waits
import CanStream.Proofs.Socket.WriteNotification
import CanStream.Proofs.Socket.Yield
import CanStream.Proofs.Text.Numeral
import CanStream.Proofs.Tool.Outcome
import CanStream.Proofs.Tool.Payloads
import CanStream.Proofs.Tool.RawFrames
import CanStream.Proofs.Tool.SentFrames
import CanStream.Protocol.IsoTp
import CanStream.Protocol.Plain
import CanStream.Protocol.Raw
import CanStream.Socket.Basic
import CanStream.Socket.Connection
import CanStream.Socket.Dispatch
import CanStream.Socket.Engine
import CanStream.Socket.Event
import CanStream.Socket.Frames
import CanStream.Socket.Handler
import CanStream.Socket.Perform
import CanStream.Socket.Protocol
import CanStream.Socket.Request
import CanStream.Socket.Rules
import CanStream.Socket.Waiting
import CanStream.Text.Hex
import CanStream.Text.Number
import CanStream.Text.Quoted
import CanStream.Tool.Arguments
import CanStream.Tool.Choice
import CanStream.Tool.Outcome
import CanStream.Tool.Payloads
import CanStream.Tool.RawFrames
