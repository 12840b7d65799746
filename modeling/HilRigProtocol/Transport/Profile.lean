/-
  The MVP profile behind the public API (`transport_profile_mvp.c`).

  `Call` is the type of the public calls on an initialized endpoint and `step`
  performs one; `transport.c` forwards every public function to the profile
  function of the same name. A call with an uninitialized context returns
  INVALID_ARGUMENT and touches nothing, so `step` starts from the root that
  `Root_From_Context` finds. Caller pointers are valid: `outBuffer` is the
  capacity of the caller's buffer, or `none` for a NULL size query.
-/
import HilRigProtocol.Transport.Receive

namespace HilRigProtocol.Transport

/-- `HIL_Transport_Storage_T`; `workspace` is an address and 0 is NULL. -/
structure Storage where
  workspace : Nat
  workspaceSize : Nat
  deriving DecidableEq, Repr

/-- The addresses of the caller's context, configuration and storage objects. -/
structure Placement where
  context : Nat
  config : Nat
  storage : Nat
  deriving DecidableEq, Repr

/-- `HIL_Transport_Context_T`; `implementation` is NULL or points at the root. -/
structure Context where
  implementation : Option Root
  implementationSize : Nat
  initializationCookie : UInt32

/-- The zero-initialized facade that `Init` requires. -/
def Context.zero : Context where
  implementation := none
  implementationSize := 0
  initializationCookie := 0

/-- `HIL_TRANSPORT_INTERNAL_INITIALIZATION_COOKIE` -/
def initializationCookie : UInt32 := 0x48494C54

namespace Profile

/-! ## Configuration and initialization -/

section
variable [Target]

/-- `HIL_TRANSPORT_MVP_Checked_Add` -/
def checkedAdd (left right : Nat) : Option Nat :=
  if left > Target.sizeMax - right then none else some (left + right)

/-- `HIL_TRANSPORT_MVP_Storage_Overlaps` -/
def storageOverlaps (object objectSize : Nat) (storage : Storage) : Bool :=
  if object > Target.uintptrMax - objectSize
      ∨ storage.workspace > Target.uintptrMax - storage.workspaceSize then true
  else
    decide (object < storage.workspace + storage.workspaceSize
      ∧ storage.workspace < object + objectSize)

/-- `HIL_TRANSPORT_MVP_Validate_Config_And_Size` -/
def validateConfigAndSize (config : Config) : Status × Nat :=
  if config.maxApplicationMessageSize = 0 ∨ config.maxEncodedFrameSize = 0 then
    (.invalidArgument, 0)
  else if config.connectionTimeoutMs ≠ 0 then (.unsupportedConfiguration, 0)
  else
    let encodedMinimum := maxEncodedSize config.maxApplicationMessageSize
    if encodedMinimum = 0 ∨ config.maxEncodedFrameSize < encodedMinimum then
      (.unsupportedConfiguration, 0)
    else
      let totalSize := do
        let rawScratchSize ← checkedAdd config.maxApplicationMessageSize rawOverhead
        let total ← checkedAdd Target.sizeofRoot config.maxApplicationMessageSize
        let total ← checkedAdd total config.maxEncodedFrameSize
        let total ← checkedAdd total (config.maxEncodedFrameSize - 1)
        let total ← checkedAdd total rawScratchSize
        checkedAdd total config.maxApplicationMessageSize
      match totalSize with
      | none => (.unsupportedConfiguration, 0)
      | some requiredSize => (.ok, requiredSize)

/-- `HIL_TRANSPORT_PROFILE_Default_Config` -/
def defaultConfig : Config where
  maxApplicationMessageSize := 512
  maxEncodedFrameSize := 640
  sessionSeed := sessionSeedInvalid
  initialReliableSequence := 0
  connectionTimeoutMs := 0
  retransmitTimeoutMs := 0
  maxRetries := 0

/-- `HIL_TRANSPORT_PROFILE_Required_Storage_Size` -/
def requiredStorageSize (config : Config) : Status × Nat := validateConfigAndSize config

/-- The five byte regions that `Init` carves from the workspace, after the root. -/
def carveRegions (config : Config) (workspace : Nat) : Regions :=
  let submittedMessage := workspace + Target.sizeofRoot
  let encodedOutput := submittedMessage + config.maxApplicationMessageSize
  let parserScratch := encodedOutput + config.maxEncodedFrameSize
  let codecScratch := parserScratch + (config.maxEncodedFrameSize - 1)
  let receivedMessage := codecScratch + (config.maxApplicationMessageSize + rawOverhead)
  { submittedMessage := submittedMessage
    encodedOutput := encodedOutput
    parserScratch := parserScratch
    codecScratch := codecScratch
    receivedMessage := receivedMessage }

/-- The event whose bytes are all zero. -/
def zeroEvent : Event where
  type := .none
  status := .ok
  failure := .none
  requiredCapacity := 0

/-- The root that `Init` writes into the cleared workspace. -/
def initialRoot (role : Role) (config : Config) (regions : Regions) (session : Session)
    (parser : Parser) : Root where
  base :=
    { config := config
      role := role
      linkState := .disconnected
      sessionState := .disconnected
      operatingMode := .normal
      operatingModeValid := 0
      lastFailure := .none }
  session := session
  parser := parser
  regions := regions
  submittedMessage := []
  submittedMessagePending := 0
  encodedOutput := []
  encodedOutputCapacity := config.maxEncodedFrameSize
  outputSelection := .none
  controlOutput := []
  controlOutputState := .idle
  recoveryResetPending := 0
  recoveryResetSessionIdentifier := 0
  recentlyAbandonedSessionIdentifier := 0
  recentlyAbandonedSessionIdentifierValid := 0
  codecScratchSize := config.maxApplicationMessageSize + rawOverhead
  receivedMessage := []
  receivedMessagePending := 0
  receiveProtocolErrorPending := 0
  eventQueue := fun _ => zeroEvent
  eventReadIndex := 0
  eventCount := 0

/-- `HIL_TRANSPORT_PROFILE_Init` -/
def init (context : Context) (role : Role) (config : Config) (storage : Storage)
    (placement : Placement) : Status × Context :=
  if context.implementation.isSome ∨ context.implementationSize ≠ 0
      ∨ context.initializationCookie ≠ 0 then
    (.invalidArgument, context)
  else if role ≠ .host ∧ role ≠ .rig then (.invalidArgument, context)
  else if Session.seedIsInvalid role config.sessionSeed then (.invalidArgument, context)
  else
    let (status, requiredSize) := validateConfigAndSize config
    if status ≠ .ok then (status, context)
    else if storage.workspace = 0 ∨ storage.workspace % Target.workspaceAlignment ≠ 0 then
      (.invalidArgument, context)
    else if storage.workspaceSize < requiredSize then (.bufferTooSmall, context)
    else if storageOverlaps placement.context Target.sizeofContext storage
        ∨ storageOverlaps placement.config Target.sizeofConfig storage
        ∨ storageOverlaps placement.storage Target.sizeofStorage storage then
      (.invalidArgument, context)
    else
      let regions := carveRegions config storage.workspace
      match Session.init role config.sessionSeed config.initialReliableSequence with
      | (status, none) => (status, context)
      | (_, some session) =>
          let (status, parser) := Parser.init regions.parserScratch (config.maxEncodedFrameSize - 1)
          if status ≠ .ok then (status, context)
          else
            (.ok,
              { implementation :=
                  some (Events.reset (initialRoot role config regions session parser))
                implementationSize := requiredSize
                initializationCookie := initializationCookie })

/-- `HIL_TRANSPORT_MVP_Root_From_Context` -/
def rootFromContext (context : Context) : Option Root :=
  if context.implementationSize < Target.sizeofRoot
      ∨ context.initializationCookie ≠ initializationCookie then none
  else context.implementation

/-! ## Reset -/

/-- `phase > WAITING_FOR_INITIATE && phase < ESTABLISHED` -/
def phaseIsBoundHandshake : HandshakePhase → Bool
  | .initiatePending | .waitingForResponse | .responsePending | .waitingForConfirm
  | .confirmPending | .waitingForConfirmAck => true
  | _ => false

/-- `HIL_TRANSPORT_MVP_Profile_Has_Trustworthy_Active_Session` -/
def hasTrustworthyActiveSession (root : Root) : Bool :=
  let session := root.session
  session.role.isListed && root.base.role == session.role
    && session.linkState == .connected && root.base.linkState == session.linkState
    && session.linkStateObserved == 1
    && (session.state == .connecting || session.state == .established)
    && root.base.sessionState == session.state
    && root.base.lastFailure == session.lastFailure
    && Session.completedConfirmMetadataIsValid root
    && session.sessionIdentifierValid == 1
    && sessionIdentifierIsValid session.sessionIdentifier
    && ((session.state == .established && session.handshakePhase == .established)
      || (session.state == .connecting && phaseIsBoundHandshake session.handshakePhase))

/-- `HIL_TRANSPORT_MVP_Profile_Has_Trustworthy_Pending_Recovery_Reset` -/
def hasTrustworthyPendingRecoveryReset (root : Root) : Bool :=
  let session := root.session
  let controlStateIsCoherent :=
    (root.controlOutputState == .ready && root.outputSelection == .none)
      || (root.controlOutputState == .peeked && root.outputSelection == .control)
  root.recoveryResetPending == 1
    && sessionIdentifierIsValid root.recoveryResetSessionIdentifier
    && session.role.isListed && root.base.role == session.role
    && session.linkState == .connected && root.base.linkState == session.linkState
    && session.linkStateObserved == 1
    && session.state == .recovering && root.base.sessionState == .recovering
    && root.base.lastFailure == session.lastFailure
    && session.sessionIdentifierValid == 0
    && session.sessionIdentifier == sessionSeedInvalid
    && session.handshakePhase == .inactive
    && session.reliableState == .idle
    && session.retainedReliableFrameType == .invalid
    && decide (root.controlOutput.length > 0)
    && decide (root.controlOutput.length ≤ controlOutputCapacity)
    && controlStateIsCoherent

/-- The identity whose RESET `HIL_TRANSPORT_PROFILE_Reset` publishes, if any. -/
def resetNotification (root : Root) : Option UInt64 :=
  if hasTrustworthyPendingRecoveryReset root then some root.recoveryResetSessionIdentifier
  else if hasTrustworthyActiveSession root then some root.session.sessionIdentifier
  else none

/-- `HIL_TRANSPORT_PROFILE_Reset` -/
def reset (root : Root) : Status × Root :=
  let notification := resetNotification root
  let (status, root) := Session.explicitReset root
  if status ≠ .ok then (status, root)
  else
    match notification with
    | none => (.ok, root)
    | some resetSessionIdentifier =>
        let root :=
          { root with
            recentlyAbandonedSessionIdentifier := resetSessionIdentifier
            recentlyAbandonedSessionIdentifierValid := 1 }
        let (status, root) := Handshake.publishReset root resetSessionIdentifier
        if status ≠ .ok then Session.enterFault root
        else
          (.ok,
            { root with
              recoveryResetPending := 1
              recoveryResetSessionIdentifier := resetSessionIdentifier })

/-! ## Process -/

/-- The part of `HIL_TRANSPORT_PROFILE_Process` after the recovery boundary: one
    handshake publication, one timer step, and the policy for exhausted retries. -/
def progressHandshakeAndRetries (root : Root) (nowMs : UInt32) : Status × Root :=
  let (status, root) := Handshake.process root
  if status ≠ .ok then (status, root)
  else
    let (status, reliabilityOutcome, root) := Reliability.processPending root nowMs
    if status ≠ .ok then (status, root)
    else
      let retainedType := root.session.retainedReliableFrameType
      if reliabilityOutcome = .retriesExhausted ∨ root.session.reliableState = .exhausted then
        if retainedType = .applicationMessage then Application.handleRetryExhaustion root
        else if retainedType = .initiate ∨ retainedType = .response
            ∨ retainedType = .confirm then
          Handshake.beginLocalRecovery root .delivery
        else (.ok, root)
      else (.ok, root)

/-- `HIL_TRANSPORT_PROFILE_Process` -/
def process (root : Root) (nowMs : UInt32) (operatingMode : OperatingMode) : Status × Root :=
  if ¬ operatingMode.isListed then (.invalidArgument, root)
  else
    let root :=
      { root with base.operatingMode := operatingMode, base.operatingModeValid := 1 }
    if root.base.sessionState = .fault ∨ root.session.state = .fault then (.internalError, root)
    else if root.base.linkState ≠ root.session.linkState then recordInvariantFailure root
    else if root.base.linkState = .disconnected then (.ok, root)
    else
      -- Receive work is resolved before the recovery boundary is crossed.
      let (status, root) :=
        if root.receiveProtocolErrorPending ≠ 0 ∨ root.parser.bodyReady ≠ 0 then
          let (status, _, root) := Receive.receiveBytes root []
          (status, root)
        else (.ok, root)
      if status ≠ .ok then (status, root)
      else if root.base.sessionState = .recovering ∨ root.session.state = .recovering then
        if root.base.sessionState ≠ root.session.state then recordInvariantFailure root
        else
          let (status, controlPending, root) := ControlOutput.getPendingStatus root
          if status ≠ .ok then (status, root)
          else if controlPending then (.ok, root)
          -- A partial body may span calls; the receive path finishes or discards it.
          else if root.parser.accumulated.length ≠ 0 ∨ root.parser.discarding ≠ 0 then (.ok, root)
          else
            let (status, root) := Session.beginEstablishment root
            if status ≠ .ok then (status, root) else progressHandshakeAndRetries root nowMs
      else progressHandshakeAndRetries root nowMs

end

/-! ## Status -/

/-- The checks of `HIL_TRANSPORT_MVP_Profile_Validate_Status_Metadata`. -/
def statusMetadataIsValid (root : Root) : Bool :=
  root.base.role.isListed && root.session.role == root.base.role
    && root.base.linkState.isListed && root.session.linkState == root.base.linkState
    && root.base.sessionState.isListed && root.session.state == root.base.sessionState
    && root.base.operatingMode.isListed && decide (root.base.operatingModeValid ≤ 1)
    && root.base.lastFailure.isListed && root.session.lastFailure == root.base.lastFailure
    && Session.completedConfirmMetadataIsValid root

/-- `HIL_TRANSPORT_PROFILE_Get_Status`; the snapshot is written only on OK. -/
def getStatus (root : Root) : Status × Option StatusSnapshot × Root :=
  if ¬ statusMetadataIsValid root then
    let (status, root) := Session.enterFault root
    (status, none, root)
  else
    let (result, outputPending, deliveryPending, root) := Output.getPendingStatus root
    if result ≠ .ok then (result, none, root)
    else
      let (result, applicationMessagePending, root) := Application.getPendingStatus root
      if result ≠ .ok then (result, none, root)
      else
        let (result, eventPending, root) := Events.getPendingStatus root
        if result ≠ .ok then (result, none, root)
        else
          (.ok, some
            { role := root.base.role
              linkState := root.base.linkState
              sessionState := root.base.sessionState
              operatingMode := root.base.operatingMode
              operatingModeValid := root.base.operatingModeValid
              outputPending := outputPending
              applicationMessagePending := applicationMessagePending
              eventPending := eventPending
              reliableDeliveryPending := deliveryPending
              lastFailure := root.base.lastFailure }, root)

end Profile

/-! ## The public API -/

/-- The public calls on an initialized endpoint. -/
inductive Call
  | reset
  | notifyLinkState (linkState : LinkState) (nowMs : UInt32)
  | submitApplicationData (payload : List UInt8)
  | receiveBytes (data : List UInt8)
  | process (nowMs : UInt32) (operatingMode : OperatingMode)
  | peekOutput (outBuffer : Option Nat)
  | commitOutput (nowMs : UInt32)
  | readApplicationData (outBuffer : Option Nat)
  | readEvent
  | getStatus
  deriving DecidableEq, Repr

/-- What a call returns: its status and what it writes through its out parameters.
    `size` is `bytes_consumed`, `output_size` or `message_size`. -/
structure Response where
  status : Status
  size : Nat
  bytes : List UInt8
  event : Option Event
  snapshot : Option StatusSnapshot
  deriving DecidableEq, Repr

/-- The response of a call without out parameters. -/
def Response.ofStatus (status : Status) : Response where
  status := status
  size := 0
  bytes := []
  event := none
  snapshot := none

/-- One public call on an initialized endpoint. -/
def step [Target] (root : Root) : Call → Response × Root
  | .reset =>
      let (status, root) := Profile.reset root
      (.ofStatus status, root)
  | .notifyLinkState linkState _ =>
      let (status, root) := Session.notifyLinkState root linkState
      (.ofStatus status, root)
  | .submitApplicationData payload =>
      let (status, root) := Application.submit root payload
      (.ofStatus status, root)
  | .receiveBytes data =>
      let (status, consumed, root) := Receive.receiveBytes root data
      ({ Response.ofStatus status with size := consumed }, root)
  | .process nowMs operatingMode =>
      let (status, root) := Profile.process root nowMs operatingMode
      (.ofStatus status, root)
  | .peekOutput outBuffer =>
      let (status, outputSize, bytes, root) := Output.peekOutput root outBuffer
      ({ Response.ofStatus status with size := outputSize, bytes := bytes }, root)
  | .commitOutput nowMs =>
      let (status, root) := Output.commitOutput root nowMs
      (.ofStatus status, root)
  | .readApplicationData outBuffer =>
      let (status, messageSize, bytes, root) := Application.read root outBuffer
      ({ Response.ofStatus status with size := messageSize, bytes := bytes }, root)
  | .readEvent =>
      let (status, event, root) := Events.read root
      ({ Response.ofStatus status with event := event }, root)
  | .getStatus =>
      let (status, snapshot, root) := Profile.getStatus root
      ({ Response.ofStatus status with snapshot := snapshot }, root)

end HilRigProtocol.Transport
