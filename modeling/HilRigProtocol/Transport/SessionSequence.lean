/-
  The sequence and acknowledgement classifiers of the session
  (`transport_session_mvp.c`, from `Reserve_Sequence` on). They read and write the
  session record only, and the reliability module uses them.
-/
import HilRigProtocol.Transport.Types

namespace HilRigProtocol.Transport.Session

/-- `HIL_TRANSPORT_MVP_Session_Reserve_Sequence` -/
def reserveSequence (session : Session) : Status × UInt16 :=
  if ¬ session.reliableState.isListed then (.internalError, 0)
  else if session.reliableState ≠ .idle then (.notReady, 0)
  else if session.retainedReliableFrameType ≠ .invalid ∨ session.retainedTransmitSequence ≠ 0
      ∨ session.retransmissionsCommitted ≠ 0 ∨ session.reliableLastCommittedMs ≠ 0 then
    (.internalError, 0)
  else (.ok, session.nextTransmitSequence)

/-- `HIL_TRANSPORT_MVP_Session_Classify_Sequence` -/
def classifySequence (session : Session) (sequence : UInt16) : Status × RxSequenceResult :=
  if session.acceptedReceiveSequenceValid > 1 then (.internalError, .incompatible)
  else if session.acceptedReceiveSequenceValid = 0 then (.ok, .expected)
  else if sequence = session.expectedReceiveSequence then (.ok, .expected)
  else if sequence = session.lastAcceptedReceiveSequence then (.ok, .duplicate)
  else if sequence - session.expectedReceiveSequence > 0x8000 then (.ok, .stale)
  else (.ok, .incompatible)

/-- `HIL_TRANSPORT_MVP_Session_Accept_Sequence` -/
def acceptSequence (session : Session) (sequence : UInt16) : Status × Session :=
  let (status, result) := classifySequence session sequence
  if status ≠ .ok then (status, session)
  else if result ≠ .expected then (.notReady, session)
  else
    (.ok,
      { session with
        lastAcceptedReceiveSequence := sequence
        expectedReceiveSequence := sequence + 1
        acceptedReceiveSequenceValid := 1 })

/-- `HIL_TRANSPORT_MVP_Session_Classify_Acknowledgement` -/
def classifyAcknowledgement (session : Session) (sequence : UInt16) : Status × AckResult :=
  if ¬ session.reliableState.isListed then (.internalError, .staleOrUnexpected)
  else if (session.reliableState = .awaitingAck ∨ session.reliableState = .retransmitReady)
      ∧ sequence = session.retainedTransmitSequence then
    (.ok, .matched)
  else (.ok, .staleOrUnexpected)

end HilRigProtocol.Transport.Session
