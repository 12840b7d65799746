import HilRigProtocol.Library.LittleEndian
import HilRigProtocol.Library.Cobs
import HilRigProtocol.Library.Machine
import HilRigProtocol.Library.Wire
import HilRigProtocol.Library.Layout
import HilRigProtocol.Library.Split
import HilRigProtocol.Library.Capacity
import HilRigProtocol.Library.Fifo
import HilRigProtocol.Library.Crc
import HilRigProtocol.Library.StopAndWait
import HilRigProtocol.Transport.FrameCodec
import HilRigProtocol.Transport.CobsRefines
import HilRigProtocol.Transport.FrameRoundTrip
import HilRigProtocol.Transport.Parser
import HilRigProtocol.Transport.Profile
import HilRigProtocol.Transport.Endpoint
import HilRigProtocol.Transport.EndpointReceive
import HilRigProtocol.Transport.EndpointStep
import HilRigProtocol.Transport.Verdicts
import HilRigProtocol.Transport.EndpointWf
import HilRigProtocol.Transport.EndpointStatus
import HilRigProtocol.Transport.Refinement.Checks
import HilRigProtocol.Transport.Refinement.Output
import HilRigProtocol.Transport.Refinement.Application
import HilRigProtocol.Transport.Refinement.Lifecycle
import HilRigProtocol.Transport.Refinement.Handlers
import HilRigProtocol.Transport.Refinement.Messages
import HilRigProtocol.Transport.Refinement.Dispatch
import HilRigProtocol.Transport.Refinement.Receive
import HilRigProtocol.Transport.Refinement.Process
import HilRigProtocol.Transport.Refinement.Steps
import HilRigProtocol.Transport.FaultFreedom
import HilRigProtocol.Transport.Chunking
import HilRigProtocol.Transport.Transactional
import HilRigProtocol.Transport.HostProgress
import HilRigProtocol.Transport.Atoms
import HilRigProtocol.Transport.Moves
import HilRigProtocol.Transport.Published
import HilRigProtocol.Transport.RecoveryBarrier
import HilRigProtocol.Transport.BoundAbandonment
import HilRigProtocol.Transport.Retained
import HilRigProtocol.Transport.RetryTiming
import HilRigProtocol.Transport.PinnedOutput
import HilRigProtocol.Transport.Transmissions
import HilRigProtocol.Transport.Deliveries
import HilRigProtocol.Transport.NoLeakage
import HilRigProtocol.Transport.ExplicitReset
import HilRigProtocol.Transport.DecoderExact
import HilRigProtocol.Transport.Reception
import HilRigProtocol.Transport.AbandonedIdentity
import HilRigProtocol.Transport.ReceiveSafety
import HilRigProtocol.Transport.Rejection
import HilRigProtocol.Transport.Diagnostics
import HilRigProtocol.Transport.InterveningProcess
import HilRigProtocol.Transport.SessionIdentity
import HilRigProtocol.Transport.Agreement
import HilRigProtocol.Transport.Standing
import HilRigProtocol.Transport.Flight
import HilRigProtocol.Transport.Network
import HilRigProtocol.Transport.Conversation
import HilRigProtocol.Transport.Observation
import HilRigProtocol.Transport.Sizing
import HilRigProtocol.Transport.StreamSplit
import HilRigProtocol.Transport.EventQueue
import HilRigProtocol.Transport.CrcBitwise
import HilRigProtocol.Application.Types
import HilRigProtocol.Application.Fields
import HilRigProtocol.Application.Validation
import HilRigProtocol.Application.Size
import HilRigProtocol.Application.Encoding
import HilRigProtocol.Application.Decoding
import HilRigProtocol.Application.Envelope
import HilRigProtocol.Application.Codec
import HilRigProtocol.Application.Records
import HilRigProtocol.Application.AlignedRecords
import HilRigProtocol.Application.EncodedSize
import HilRigProtocol.Application.WireForms
import HilRigProtocol.Application.Decoders
import HilRigProtocol.Application.StorageSize
import HilRigProtocol.Application.Containment
import HilRigProtocol.Application.PeripheralPayloads
import HilRigProtocol.Application.BoundedParsing
import HilRigProtocol.Application.EncodedAgreement
import HilRigProtocol.Application.HiddenDefect
import HilRigProtocol.Application.CanonicalForms
import HilRigProtocol.Application.RoundTrip
import HilRigProtocol.Transport.Courier
import HilRigProtocol.Transport.Completion
import HilRigProtocol.Transport.Episodes
import HilRigProtocol.Binding.Transport
import HilRigProtocol.Binding.Creation
import HilRigProtocol.Binding.Construction
import HilRigProtocol.Binding.Transparency
