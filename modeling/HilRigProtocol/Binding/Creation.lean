/-
  How a Python Transport is made (`transport.py`, `hil_rig_protocol_ffi.c`).

  `Memory` has what the allocator and the Python runtime decide: the addresses of the two
  blocks that the adapter asks for, 0 where there is none, and those of the configuration and
  of the storage record. Both out pointers of `HIL_PY_TRANSPORT_Create` are valid.
-/
import HilRigProtocol.Binding.Transport

namespace HilRigProtocol.Binding

open HilRigProtocol.Transport

/-! ## The adapter -/

/-- `HIL_Python_Adapter_Status_T` -/
inductive AdapterStatus
  | ok
  | invalidArgument
  | allocationFailed
  | transportError
  | unlisted (raw : UInt32)
  deriving DecidableEq, Repr

/-- The number of a `HIL_Python_Adapter_Status_T`. -/
def adapterStatusNumber : AdapterStatus → Nat
  | .ok => 0
  | .invalidArgument => 1
  | .allocationFailed => 2
  | .transportError => 3
  | .unlisted raw => raw.toNat

/-- Where the objects of a creation are. The context comes first in the adapter's object. -/
structure Memory where
  transport : Nat
  workspace : Nat
  config : Nat
  storage : Nat

section
variable [Target]

/-- `HIL_PY_TRANSPORT_Create` -/
def adapterCreate (role : Role) (config : Config) (memory : Memory) :
    AdapterStatus × Status × Option Native :=
  let (coreStatus, requiredSize) := Profile.requiredStorageSize config
  if coreStatus ≠ .ok then (.transportError, coreStatus, none)
  else if memory.transport = 0 then (.allocationFailed, .ok, none)
  else if memory.workspace = 0 then (.allocationFailed, .ok, none)
  else
    let storage : Storage := { workspace := memory.workspace, workspaceSize := requiredSize }
    let placement : Placement :=
      { context := memory.transport, config := memory.config, storage := memory.storage }
    let (coreStatus, context) := Profile.init .zero role config storage placement
    if coreStatus ≠ .ok then (.transportError, coreStatus, none)
    else
      (.ok, .ok,
        some { context, workspace := memory.workspace, workspaceSize := requiredSize })

/-! ## The construction -/

/-- A `TransportConfigurationError` without a native status. -/
def configurationError {α : Type} (message : String) : Except Raised α :=
  .error (.transportError .configuration message none none)

/-- `_resolve_effective_config`; `draw` is what `secrets.randbelow(UINT64_MAX - 1)` returns. -/
def resolveEffectiveConfig (role : Role) (config : TransportConfig) (draw : Nat) :
    Except Raised TransportConfig := do
  let seed ←
    if role = .host then
      match config.sessionSeed with
      | none => .ok (UInt64.ofNat (draw + 1))
      | some seed =>
          if seed = 0 ∨ seed = 0xFFFFFFFFFFFFFFFF then
            configurationError "HOST session_seed must be between 1 and UINT64_MAX - 1"
          else .ok seed
    else
      match config.sessionSeed with
      | none => .ok 0
      | some seed =>
          if seed ≠ 0 then configurationError "RIG session_seed must be zero" else .ok seed
  .ok { config with sessionSeed := some seed }

/-- `_build_native_config` -/
def buildNativeConfig (config : TransportConfig) : Except Raised Config :=
  match config.sessionSeed with
  | none => bindingError "effective Transport configuration has no session seed" none
  | some seed =>
      .ok
        { maxApplicationMessageSize := config.maxApplicationMessageSize
          maxEncodedFrameSize := config.maxEncodedFrameSize
          sessionSeed := seed
          initialReliableSequence := config.initialReliableSequence
          connectionTimeoutMs := config.connectionTimeoutMs
          retransmitTimeoutMs := config.retransmitTimeoutMs
          maxRetries := config.maxRetries }

/-- `_interpret_creation_result` -/
def interpretCreationResult (adapterStatus coreStatusValue : Nat) (handlePublished : Bool) :
    Except Raised Unit :=
  let coreStatus := transportStatus coreStatusValue
  if adapterStatus ∉ [0, 1, 2, 3] then
    bindingError ("native adapter returned unknown creation result " ++ toString adapterStatus)
      coreStatus
  else
    match coreStatus with
    | none =>
        bindingError
          ("native adapter returned unknown Transport status " ++ toString coreStatusValue) none
    | some coreStatus =>
        let success : Bool := adapterStatus = 0 ∧ coreStatus = .ok
        if handlePublished ≠ success then
          bindingError "native adapter returned an inconsistent handle/result combination"
            (some coreStatus)
        else if success then .ok ()
        else if adapterStatus = 1 then
          bindingError "native adapter rejected binding-owned creation arguments"
            (some coreStatus)
        else if adapterStatus = 2 then
          if coreStatus ≠ .ok then
            bindingError "native adapter allocation failure carried a non-OK core status"
              (some coreStatus)
          else .error (.memoryError "native Transport adapter allocation failed")
        else if adapterStatus ≠ 3 ∨ coreStatus = .ok then
          bindingError "native adapter returned an inconsistent creation result"
            (some coreStatus)
        else if coreStatus ∈ [.invalidArgument, .unsupportedConfiguration] then
          .error (.transportError .configuration
            ("native Transport rejected the configuration: " ++ statusName coreStatus)
            (some coreStatus) none)
        else if coreStatus = .internalError then
          .error (.transportError .internal
            "native Transport reported an internal error during creation" (some coreStatus) none)
        else
          .error (.transportError .creation
            ("native Transport creation failed: " ++ statusName coreStatus) (some coreStatus)
            none)

/-- `Transport(role, config)` on a thread. An argument of another type is `none`. -/
def Transport.construct (role : Option { role : Role // role.isListed = true })
    (config : Option TransportConfig) (draw : Nat) (memory : Memory) (thread : Nat) :
    Except Raised Transport :=
  match role, config with
  | none, _ => .error (.typeError "role must be a Role")
  | some _, none => .error (.typeError "config must be a TransportConfig")
  | some role, some config => do
      let effectiveConfig ← resolveEffectiveConfig role.1 config draw
      let nativeConfig ← buildNativeConfig effectiveConfig
      let (adapterStatus, coreStatus, handle) := adapterCreate role.1 nativeConfig memory
      interpretCreationResult (adapterStatusNumber adapterStatus) (statusNumber coreStatus)
        handle.isSome
      .ok
        { role := role.1
          config := effectiveConfig
          ownerThread := thread
          nativeHandle := handle }

end

end HilRigProtocol.Binding
