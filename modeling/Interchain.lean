import Interchain.Bytes
import Interchain.Channel.End
import Interchain.Channel.Error
import Interchain.Channel.Order
import Interchain.Channel.Sequence
import Interchain.Channel.State
import Interchain.Channel.Version
import Interchain.Client.ConsensusState
import Interchain.Client.Error
import Interchain.Client.Identifier
import Interchain.Client.Kind
import Interchain.Client.LightClient
import Interchain.Commitment.Material
import Interchain.Commitment.Path
import Interchain.Commitment.Store
import Interchain.Connection.End
import Interchain.Digest
import Interchain.Event
import Interchain.Fixture
import Interchain.Handshake.Abort
import Interchain.Handshake.Ack
import Interchain.Handshake.Cancel
import Interchain.Handshake.Compatibility
import Interchain.Handshake.Confirm
import Interchain.Handshake.Dispatch
import Interchain.Handshake.Flush
import Interchain.Handshake.Init
import Interchain.Handshake.Open
import Interchain.Handshake.Outcome
import Interchain.Handshake.SendPacket
import Interchain.Handshake.Timeout
import Interchain.Handshake.Try
import Interchain.Handshake.Verification
import Interchain.Height
import Interchain.Host.Block
import Interchain.Host.Commitment
import Interchain.Host.Session
import Interchain.Host.State
import Interchain.Identifier.Names
import Interchain.Identifier.Rule
import Interchain.Json.Reader
import Interchain.Json.Record
import Interchain.Json.Recorded
import Interchain.Json.Token
import Interchain.Json.Value
import Interchain.Message
import Interchain.Order
import Interchain.Packet
import Interchain.Params
import Interchain.Proofs.Channel.Sequence
import Interchain.Proofs.Commitment.Digests
import Interchain.Proofs.Commitment.Encoding
import Interchain.Proofs.Commitment.Location
import Interchain.Proofs.Commitment.Store
import Interchain.Proofs.Commitment.Verification
import Interchain.Proofs.Course.Attempts
import Interchain.Proofs.Course.Changes
import Interchain.Proofs.Course.Channels
import Interchain.Proofs.Course.Coherence
import Interchain.Proofs.Course.Exits
import Interchain.Proofs.Course.Freshness
import Interchain.Proofs.Course.Independence
import Interchain.Proofs.Course.Negotiation
import Interchain.Proofs.Course.Receipts
import Interchain.Proofs.Course.Run
import Interchain.Proofs.Course.Sequences
import Interchain.Proofs.Course.Window
import Interchain.Proofs.Handshake.Acceptance
import Interchain.Proofs.Handshake.Answer
import Interchain.Proofs.Handshake.Atomicity
import Interchain.Proofs.Handshake.Checks
import Interchain.Proofs.Handshake.Completion
import Interchain.Proofs.Handshake.Evidence
import Interchain.Proofs.Handshake.Flushing
import Interchain.Proofs.Handshake.Frame
import Interchain.Proofs.Handshake.GivingUp
import Interchain.Proofs.Handshake.Locality
import Interchain.Proofs.Handshake.Looking
import Interchain.Proofs.Handshake.Moves
import Interchain.Proofs.Handshake.Opening
import Interchain.Proofs.Handshake.Plans
import Interchain.Proofs.Handshake.Progress
import Interchain.Proofs.Handshake.Refusal
import Interchain.Proofs.Handshake.Result
import Interchain.Proofs.Handshake.SequenceErrors
import Interchain.Proofs.Handshake.Step
import Interchain.Proofs.Handshake.TimingOut
import Interchain.Proofs.Handshake.Weighing
import Interchain.Proofs.Host.Records
import Interchain.Proofs.Json.Lexing
import Interchain.Proofs.Json.Parsing
import Interchain.Proofs.Link.Agreement
import Interchain.Proofs.Link.Draining
import Interchain.Proofs.Link.History
import Interchain.Proofs.Link.Invariant
import Interchain.Proofs.Link.Limits
import Interchain.Proofs.Link.Lapsing
import Interchain.Proofs.Link.Offer
import Interchain.Proofs.Link.Reopening
import Interchain.Proofs.Link.Restoring
import Interchain.Proofs.Link.Run
import Interchain.Proofs.Link.Standing
import Interchain.Proofs.Mirror.Completion
import Interchain.Proofs.Mirror.Ends
import Interchain.Proofs.Mirror.Mismatch
import Interchain.Proofs.Mirror.Passing
import Interchain.Proofs.Mirror.Proposal
import Interchain.Proofs.Mirror.Retry
import Interchain.Proofs.Mirror.Steps
import Interchain.Report
import Interchain.Signer
import Interchain.Text.Alphanumeric
import Interchain.Text.Blank
import Interchain.Text.Decimal
import Interchain.Text.Hexadecimal
import Interchain.Text.Listing
import Interchain.Text.Quoted
import Interchain.Time.Date
import Interchain.Time.Instant
import Interchain.Time.Reader
import Interchain.Time.Span
import Interchain.Time.Spoken
import Interchain.Timestamp
import Interchain.Trace
import Interchain.Upgrade.Fields
import Interchain.Upgrade.Proposal
import Interchain.Upgrade.Timeout
import Interchain.Word
import Interchain.Proofs.Time.Calendar
import Interchain.Proofs.Time.Writing
import Interchain.Proofs.Commitment.Reading
import Interchain.Proofs.Commitment.Pinning
import Interchain.Proofs.Handshake.Lockstep
import Interchain.Proofs.Handshake.Staging
import Interchain.Proofs.Handshake.Grounds
import Interchain.Proofs.Handshake.Causes
import Interchain.Proofs.Link.Authenticity
import Interchain.Proofs.Course.Idle
import Interchain.Proofs.Course.Proposals
import Interchain.Proofs.Handshake.Resolving
import Interchain.Proofs.Handshake.Telling
import Interchain.Proofs.Time.Addition
import Interchain.Proofs.Time.Deadline
import Interchain.Proofs.Time.Nanoseconds
import Interchain.Proofs.Time.Provenance
import Interchain.Proofs.Commitment.Packets
import Interchain.Proofs.Identifier.Acceptance
import Interchain.Proofs.Text.Decimal
import Interchain.Proofs.Client.Routing
import Interchain.Proofs.Text.Utf8
import Interchain.Proofs.Commitment.Keys
import Interchain.Proofs.Json.Recorded
import Interchain.Proofs.Decoding.Checked
import Interchain.Proofs.Decoding.Values
import Interchain.Proofs.Decoding.Records
